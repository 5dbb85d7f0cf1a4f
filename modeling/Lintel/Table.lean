/-!
# Tables keyed by text

Association lists whose keys stand in strictly ascending code point order. Building one with `insert`
from `empty` keeps that order, so a table has one written form.
-/

set_option autoImplicit false

namespace Lintel

/-- Entries by key, keys strictly ascending. -/
abbrev Table (α : Type) := List (String × α)

namespace Table

variable {α β : Type}

/-- Whether one text comes before another, by code points. -/
def precedes : List Char → List Char → Bool
  | _, [] => false
  | [], _ :: _ => true
  | a :: as, b :: bs => if a = b then precedes as bs else a.toNat < b.toNat

/-- Whether one key comes before another. -/
def keyPrecedes (first second : String) : Bool :=
  precedes first.toList second.toList

/-- Puts a value under a key; an earlier value of the same key is replaced. -/
def insert (key : String) (value : α) : Table α → Table α
  | [] => [(key, value)]
  | (k, v) :: rest =>
    if key = k then (key, value) :: rest
    else if keyPrecedes key k then (key, value) :: (k, v) :: rest
    else (k, v) :: insert key value rest

/-- The value under a key. -/
def find? (key : String) : Table α → Option α
  | [] => none
  | (k, v) :: rest => if key = k then some v else find? key rest

def contains (table : Table α) (key : String) : Bool :=
  (find? key table).isSome

def keys (table : Table α) : List String :=
  table.map Prod.fst

/-- The table of all entries; of two entries with one key the later stays. -/
def ofList (entries : List (String × α)) : Table α :=
  entries.foldl (fun table (key, value) => insert key value table) []

/-- The distinct texts of a list in ascending order. -/
def sortedSet (texts : List String) : List String :=
  keys (ofList (texts.map fun text => (text, ())))

end Table

end Lintel
