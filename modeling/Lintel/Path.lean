import Lintel.Table
import Lintel.Text.Blank

/-!
# Paths

A path is a text cut at slashes. Two spellings are the same path when their components agree: repeated
slashes, a slash at the end and a single dot anywhere but at the start mean nothing. Paths are ordered
component by component, so `a/b` comes before `a.b`.
-/

set_option autoImplicit false

namespace Lintel

/-- One step of a path. -/
inductive Component where
  | root
  | current
  | parent
  | name (text : String)
deriving Repr, DecidableEq

namespace Component

/-- The root comes first, then a single dot, then two dots, then names by code points. -/
def order (first second : Component) : Ordering :=
  match first, second with
  | name a, name b =>
    if a = b then .eq else if Table.keyPrecedes a b then .lt else .gt
  | _, _ => compare (rank first) (rank second)
where
  rank : Component → Nat
    | root => 0
    | current => 1
    | parent => 2
    | name _ => 3

end Component

namespace Path

/-- The component written as one piece between slashes; empty pieces and single dots are none. -/
def pieceComponent? (piece : List Char) : Option Component :=
  if piece = [] ∨ piece = ['.'] then none
  else if piece = ['.', '.'] then some .parent
  else some (.name (String.ofList piece))

/-- The components of a path. A leading slash is the root, and a leading dot that stands alone is
kept. -/
def components (path : String) : List Component :=
  let pieces := Text.splitAll '/' path.toList
  let start : List Component := match pieces with
    | [] :: _ :: _ => [.root]
    | ['.'] :: _ => [.current]
    | _ => []
  start ++ pieces.filterMap pieceComponent?

/-- Compares two lists of components. -/
def orderComponents : List Component → List Component → Ordering
  | [], [] => .eq
  | [], _ :: _ => .lt
  | _ :: _, [] => .gt
  | a :: as, b :: bs => (a.order b).then (orderComponents as bs)

/-- Compares two paths. -/
def order (first second : String) : Ordering :=
  orderComponents (components first) (components second)

/-- Whether two spellings name the same path. -/
def same (first second : String) : Bool :=
  components first = components second

/-- Puts a relative path behind a directory. An absolute path stands for itself. -/
def join (directory path : String) : String :=
  if path.toList.head? = some '/' then path
  else if directory.isEmpty then path
  else if directory.toList.getLast? = some '/' then directory ++ path
  else directory ++ "/" ++ path

/-- The last component, if it is a name. -/
def fileName? (path : String) : Option String :=
  match (components path).getLast? with
  | some (.name text) => some text
  | _ => none

/-- The text behind the last dot of the last component. A dot at its start does not count. -/
def extension? (path : String) : Option String := do
  let name ← fileName? path
  let reversed := name.toList.reverse
  let suffix := reversed.takeWhile fun c => c ≠ '.'
  match reversed.dropWhile fun c => c ≠ '.' with
  | [] | [_] => none
  | _ => some (String.ofList suffix.reverse)

/-- Drops the pieces at the end that are no components; the first piece always counts. -/
def trimPieces (pieces : List (List Char)) : List (List Char) :=
  pieces.take 1 ++ ((pieces.drop 1).reverse.dropWhile fun piece => piece = [] ∨ piece = ['.']).reverse

/-- The path without its last component, in the spelling of the path. The root and the empty path have
no parent. -/
def parent? (path : String) : Option String :=
  match trimPieces (Text.splitAll '/' path.toList) with
  | [] | [[]] => none
  | pieces =>
    match trimPieces pieces.dropLast with
    | [[]] => some "/"
    | above => some ("/".intercalate (above.map String.ofList))

end Path

end Lintel
