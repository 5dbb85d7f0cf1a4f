import Lintel.Severity

/-!
# Arguments

Reading of the arguments of an invocation. Options may be written long or short, with their values
attached or behind them. Arguments are read from left to right, and the first one that is wrong decides
the complaint; the value of an option is looked at only when the next argument has been recognised.
-/

set_option autoImplicit false

namespace Lintel.CommandLine

/-- How a report is written. -/
inductive Format where
  | text
  | json
deriving Repr, DecidableEq

/-- What an invocation asks for. -/
structure Invocation where
  path : String
  config : Option String := none
  exclude : List String := []
  severity : Option Severity := none
  failOn : Option Severity := none
  format : Format := .text
  jobs : Nat := 0
  cacheDir : Option String := none
  noCache : Bool := false
  clearCache : Bool := false
  timeLimit : Option Nat := none
  listRules : Bool := false
  verbose : Bool := false
deriving Repr, DecidableEq

/-- What is to be done. -/
inductive Request where
  | run (invocation : Invocation)
  | help
  | version
deriving Repr, DecidableEq

/-- Everything that an argument can set. -/
inductive Argument where
  | path | config | exclude | severity | failOn | format | jobs | cacheDir | noCache | clearCache
  | timeLimit | listRules | verbose | help | version
deriving Repr, DecidableEq

namespace Argument

/-- The options with their long names. -/
def options : List (Argument × String) :=
  [(config, "config"), (exclude, "exclude"), (severity, "severity"), (failOn, "fail-on"),
   (format, "format"), (jobs, "jobs"), (cacheDir, "cache-dir"), (noCache, "no-cache"),
   (clearCache, "clear-cache"), (timeLimit, "time-limit"), (listRules, "list-rules"),
   (verbose, "verbose"), (help, "help"), (version, "version")]

def ofLong? (name : String) : Option Argument :=
  (options.find? fun option => option.2 = name).map Prod.fst

def ofShort? : Char → Option Argument
  | 'c' => some config
  | 'e' => some exclude
  | 's' => some severity
  | 'j' => some jobs
  | 'v' => some verbose
  | 'h' => some help
  | 'V' => some version
  | _ => none

/-- The name of the value of an option that takes one. -/
def valueName? : Argument → Option String
  | config => some "CONFIG"
  | exclude => some "EXCLUDE"
  | severity => some "SEVERITY"
  | failOn => some "FAIL_ON"
  | format => some "FORMAT"
  | jobs => some "JOBS"
  | cacheDir => some "CACHE_DIR"
  | timeLimit => some "TIME_LIMIT"
  | _ => none

def takesValue (argument : Argument) : Bool := argument.valueName?.isSome

/-- How an argument is named in a complaint. -/
def describe (argument : Argument) : String :=
  match options.find? fun option => option.1 = argument with
  | none => "<PATH>"
  | some (_, long) =>
    match argument.valueName? with
    | some value => s!"--{long} <{value}>"
    | none => s!"--{long}"

end Argument

/-- What is wrong with an invocation. -/
inductive UsageError where
  | unexpectedArgument (text : String)
  | unexpectedValue (argument : Argument) (value : String)
  | missingValue (argument : Argument)
  | invalidValue (argument : Argument) (value : String) (reason : Option String)
  | repeated (argument : Argument)
  | conflict (first second : Argument)
  | missingPath
deriving Repr, DecidableEq

def UsageError.message : UsageError → String
  | .unexpectedArgument text => s!"unexpected argument '{text}' found"
  | .unexpectedValue argument value =>
    s!"unexpected value '{value}' for '{argument.describe}' found; no more were expected"
  | .missingValue argument => s!"a value is required for '{argument.describe}' but none was supplied"
  | .invalidValue argument value none => s!"invalid value '{value}' for '{argument.describe}'"
  | .invalidValue argument value (some reason) =>
    s!"invalid value '{value}' for '{argument.describe}': {reason}"
  | .repeated argument => s!"the argument '{argument.describe}' cannot be used multiple times"
  | .conflict first second =>
    s!"the argument '{first.describe}' cannot be used with '{second.describe}'"
  | .missingPath => "the following required arguments were not provided:"

/-- Reads a number below 2^64. -/
def readNumber (text : String) : Except String Nat :=
  let digits := match text.toList with
    | '+' :: rest => rest
    | other => other
  if text.isEmpty then .error "cannot parse integer from empty string"
  else if digits.isEmpty || !digits.all Char.isDigit then .error "invalid digit found in string"
  else
    let value := digits.foldl (fun value digit => value * 10 + (digit.toNat - 48)) 0
    if value ≤ 0xFFFFFFFFFFFFFFFF then .ok value else .error "number too large to fit in target type"

/-- An argument that has been recognised but not yet looked at: whether its value is still to come, or
the value. -/
structure Pending where
  argument : Argument
  value : Option String
deriving Repr

/-- What has been read. -/
structure Progress where
  path : Option String := none
  invocation : Invocation := { path := "" }
  /-- The arguments that were set, in the order in which they first came. -/
  seen : List Argument := []
  pending : Option Pending := none
  onlyPaths : Bool := false

namespace Progress

/-- Notes that an argument is set. Only patterns may come again. -/
def note (progress : Progress) (argument : Argument) : Except UsageError Progress :=
  if progress.seen.contains argument then
    if argument = .exclude then .ok progress else .error (.repeated argument)
  else .ok { progress with seen := progress.seen ++ [argument] }

def readLevel (argument : Argument) (value : String) : Except UsageError Severity :=
  match Severity.parse? value with
  | some level => .ok level
  | none => .error (.invalidValue argument value (some (Severity.unknownMessage value)))

def readCount (argument : Argument) (value : String) : Except UsageError Nat :=
  match readNumber value with
  | .ok count => .ok count
  | .error reason => .error (.invalidValue argument value (some reason))

/-- Refuses an empty path. -/
def readPath (argument : Argument) (value : String) : Except UsageError String :=
  if value.isEmpty then .error (.missingValue argument) else .ok value

def readFormat (value : String) : Except UsageError Format :=
  if value = "text" then .ok .text
  else if value = "json" then .ok .json
  else if value.isEmpty then .error (.missingValue .format)
  else .error (.invalidValue .format value none)

/-- Sets what an argument with a value sets. -/
def setValue (progress : Progress) (argument : Argument) (value : String) :
    Except UsageError Progress := do
  let progress ← progress.note argument
  let invocation := progress.invocation
  match argument with
  | .path => .ok { progress with path := some (← readPath .path value) }
  | .config =>
    .ok { progress with invocation := { invocation with config := some (← readPath .config value) } }
  | .exclude =>
    .ok { progress with invocation := { invocation with exclude := invocation.exclude ++ [value] } }
  | .severity =>
    .ok { progress with
      invocation := { invocation with severity := some (← readLevel .severity value) } }
  | .failOn =>
    .ok { progress with invocation := { invocation with failOn := some (← readLevel .failOn value) } }
  | .format => .ok { progress with invocation := { invocation with format := ← readFormat value } }
  | .jobs => .ok { progress with invocation := { invocation with jobs := ← readCount .jobs value } }
  | .cacheDir =>
    .ok { progress with
      invocation := { invocation with cacheDir := some (← readPath .cacheDir value) } }
  | .timeLimit =>
    .ok { progress with
      invocation := { invocation with timeLimit := some (← readCount .timeLimit value) } }
  | _ => .ok progress

/-- Looks at the argument that was recognised last. -/
def settle (progress : Progress) : Except UsageError Progress :=
  match progress.pending with
  | none => .ok progress
  | some ⟨argument, none⟩ => .error (.missingValue argument)
  | some ⟨argument, some value⟩ => setValue { progress with pending := none } argument value

/-- Sets a switch. -/
def setSwitch (progress : Progress) (argument : Argument) : Except UsageError Progress := do
  let progress ← progress.settle
  let progress ← progress.note argument
  let invocation := progress.invocation
  match argument with
  | .noCache => .ok { progress with invocation := { invocation with noCache := true } }
  | .clearCache => .ok { progress with invocation := { invocation with clearCache := true } }
  | .listRules => .ok { progress with invocation := { invocation with listRules := true } }
  | .verbose => .ok { progress with invocation := { invocation with verbose := true } }
  | _ => .ok progress

end Progress

/-- What comes of an argument: more to read, or a request that needs nothing else. -/
inductive Step where
  | continue (progress : Progress)
  | done (request : Request)

/-- Recognises an option, given the value that is attached to it. -/
def takeOption (progress : Progress) (argument : Argument) (attached : Option String) :
    Except UsageError Step := do
  if argument.takesValue then
    let progress ← progress.settle
    match attached with
    | some value => .ok (.continue (← progress.setValue argument value))
    | none => .ok (.continue { progress with pending := some ⟨argument, none⟩ })
  else match attached with
    | some value =>
      let _ ← progress.settle
      .error (.unexpectedValue argument value)
    | none =>
      if argument = .help then do
        let _ ← progress.settle
        .ok (.done .help)
      else if argument = .version then do
        let _ ← progress.settle
        .ok (.done .version)
      else .ok (.continue (← progress.setSwitch argument))

/-- Reads the letters of short options. The rest behind an option that takes a value is its value. -/
def takeShorts (progress : Progress) : List Char → Except UsageError Step
  | [] => .ok (.continue progress)
  | c :: rest =>
    match Argument.ofShort? c with
    | none => .error (.unexpectedArgument (String.ofList ['-', c]))
    | some argument =>
      if argument.takesValue then
        let attached := match rest with
          | [] => none
          | '=' :: value => some (String.ofList value)
          | value => some (String.ofList value)
        takeOption progress argument attached
      else do
        match ← takeOption progress argument none with
        | .continue progress => takeShorts progress rest
        | .done request => .ok (.done request)

/-- Reads an argument that is no option: the value that is expected, or the path. -/
def takePlain (progress : Progress) (text : String) : Except UsageError Step :=
  match progress.pending with
  | some ⟨argument, none⟩ =>
    if progress.onlyPaths then .error (.missingValue argument)
    else .ok (.continue { progress with pending := some ⟨argument, some text⟩ })
  | pending =>
    let isPathPending := match pending with
      | some ⟨.path, _⟩ => true
      | _ => false
    if progress.path.isSome || isPathPending then .error (.unexpectedArgument text)
    else do
      let progress ← progress.settle
      .ok (.continue { progress with pending := some ⟨.path, some text⟩ })

/-- Reads one argument. -/
def takeArgument (progress : Progress) (text : String) : Except UsageError Step :=
  if progress.onlyPaths then takePlain progress text
  else match text.toList with
    | ['-', '-'] => .ok (.continue { progress with onlyPaths := true })
    | '-' :: '-' :: name =>
      let long := String.ofList (name.takeWhile fun c => c ≠ '=')
      let attached := match name.dropWhile fun c => c ≠ '=' with
        | _ :: value => some (String.ofList value)
        | [] => none
      match Argument.ofLong? long with
      | some argument => takeOption progress argument attached
      | none => .error (.unexpectedArgument ("--" ++ long))
    | '-' :: c :: rest => takeShorts progress (c :: rest)
    | _ => takePlain progress text

/-- Checks what can be checked only at the end: conflicts first, then whether there is a path. -/
def finish (progress : Progress) : Except UsageError Request := do
  let progress ← progress.settle
  let clashing := progress.seen.filter fun argument => argument = .cacheDir || argument = .noCache
  match clashing, progress.path with
  | [first, second], _ => .error (.conflict first second)
  | _, none => .error .missingPath
  | _, some path => .ok (.run { progress.invocation with path })

/-- Reads arguments from left to right. -/
def readAll (progress : Progress) : List String → Except UsageError Request
  | [] => finish progress
  | text :: rest => do
    match ← takeArgument progress text with
    | .continue progress => readAll progress rest
    | .done request => .ok request

/-- Reads the arguments of an invocation. -/
def parse (arguments : List String) : Except UsageError Request :=
  readAll {} arguments

end Lintel.CommandLine
