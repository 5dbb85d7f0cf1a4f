/-!
# Searching by halving

The items of a list that stand in order are searched by looking at the one in the middle and going on in one
of the halves.
-/

set_option autoImplicit false

namespace Lintel

/-- The place halfway between two places. -/
def halfway (low high : Nat) : Nat := low + (high - low) / 2

theorem le_halfway (low high : Nat) : low ≤ halfway low high := Nat.le_add_right low _

theorem halfway_lt {low high : Nat} (nonempty : low < high) : halfway low high < high := by
  unfold halfway
  omega

variable {α : Type}

/-- Looks for an item from one place on and before another, where `order` tells how an item stands to what is
looked for: the place of an item that is equal to it, or else the place where it would have to be put. -/
def searchBetween (items : List α) (order : α → Ordering) (low high : Nat) (inside : high ≤ items.length) :
    Except Nat Nat :=
  if nonempty : low < high then
    have isAbove := le_halfway low high
    have isBelow := halfway_lt nonempty
    have isPlace : halfway low high < items.length := Nat.lt_of_lt_of_le isBelow inside
    match order items[halfway low high] with
    | .eq => .ok (halfway low high)
    | .lt => searchBetween items order (halfway low high + 1) high inside
    | .gt => searchBetween items order low (halfway low high) (Nat.le_of_lt isPlace)
  else .error low
termination_by high - low

/-- Looks for an item of a list. -/
def search (items : List α) (order : α → Ordering) : Except Nat Nat :=
  searchBetween items order 0 items.length (Nat.le_refl _)

end Lintel
