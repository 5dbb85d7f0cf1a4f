import Lintel.Rule

/-!
# Rules about calls

Calls that run code built at run time, calls that go through the shell, and calls that print. A callee
counts by its dotted name; a callee that is no dotted name is never reported.
-/

set_option autoImplicit false

namespace Lintel.Rule

open Python

/-- A call as far as these rules look at it. -/
structure CallView where
  extent : Extent
  callee : String
  keywords : List Keyword

/-- The call at a node, if its callee has a dotted name. -/
def callAt? : Node → Option CallView
  | .expr (.call extent function _ keywords) =>
    (dottedName? function).map fun callee => ⟨extent, callee, keywords⟩
  | _ => none

/-- A rule about calls, given by what it says of a call. -/
def aboutCalls (id description : String) (severity : Severity) (onByDefault : Bool)
    (complaint : CallView → Option String) : Rule where
  id := id
  description := description
  severity := severity
  onByDefault := onByDefault
  subscriptions := [.call]
  parameters := []
  evaluate := fun node context =>
    .found <| ((callAt? node).bind fun call =>
      (complaint call).map fun message =>
        context.findingAt id severity call.extent message).toList

def noEval : Rule :=
  aboutCalls "no-eval" "Avoid executing dynamically built code with eval/exec" .error true
    fun call =>
      if call.callee = "eval" ∨ call.callee = "exec" then some s!"Avoid using {call.callee}()"
      else none

/-- Callees that always go through the shell. -/
def shellCallees : List String := ["os.system", "os.popen"]

/-- Callees that go through the shell when asked to. -/
def processCallees : List String :=
  ["subprocess.call", "subprocess.run", "subprocess.Popen", "subprocess.check_call",
   "subprocess.check_output"]

/-- Whether an argument `shell=True` is among the keywords. -/
def asksForShell (keywords : List Keyword) : Bool :=
  keywords.any fun keyword =>
    match keyword.name, keyword.value with
    | some "shell", .constant _ (.bool true) => true
    | _, _ => false

def noShellSubprocess : Rule :=
  aboutCalls "no-shell-subprocess" "Avoid running commands through the system shell" .error true
    fun call =>
      if shellCallees.contains call.callee then
        some s!"{call.callee}() runs its argument through the shell"
      else if processCallees.contains call.callee && asksForShell call.keywords then
        some s!"{call.callee}() with shell=True"
      else none

def noPrint : Rule :=
  aboutCalls "no-print" "Library code should log instead of printing" .information false
    fun call => if call.callee = "print" then some "Use of print()" else none

end Lintel.Rule
