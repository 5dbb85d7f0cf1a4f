import Lintel.Search
import Mathlib.Data.List.Basic

/-!
# What a search by halving finds

Where the items in front of what is looked for come first, then at most one that is equal to it, and then
those behind it, a search by halving comes to the same place as one from item to item.
-/

set_option autoImplicit false

namespace Lintel

variable {α : Type}

/-- Of two items the first stands in front of what is looked for, or the second behind it. -/
def Parted (items : List α) (order : α → Ordering) : Prop :=
  items.Pairwise fun first second => order first = .lt ∨ order second = .gt

/-- What the result of a search says about the items. -/
inductive Settles (items : List α) (order : α → Ordering) : Except Nat Nat → Prop where
  | found {front behind : List α} {item : α} : items = front ++ item :: behind → order item = .eq →
      (∀ other ∈ front, order other = .lt) → (∀ other ∈ behind, order other = .gt) →
      Settles items order (.ok front.length)
  | missing {front behind : List α} : items = front ++ behind →
      (∀ other ∈ front, order other = .lt) → (∀ other ∈ behind, order other = .gt) →
      Settles items order (.error front.length)

section

variable {items : List α} {order : α → Ordering}

theorem Parted.front {front behind : List α} {item : α} (parted : Parted (front ++ item :: behind) order)
    (notGt : order item ≠ .gt) : ∀ other ∈ front, order other = .lt := by
  intro other member
  have apart := (List.pairwise_append.mp parted).2.2 other member item List.mem_cons_self
  exact apart.resolve_right notGt

theorem Parted.behind {front behind : List α} {item : α} (parted : Parted (front ++ item :: behind) order)
    (notLt : order item ≠ .lt) : ∀ other ∈ behind, order other = .gt := by
  intro other member
  have later := (List.pairwise_append.mp parted).2.1
  have apart := (List.pairwise_cons.mp later).1 other member
  exact apart.resolve_left notLt

/-- The items left out of the search so far stand on their sides of what is looked for. -/
theorem settles_searchBetween (parted : Parted items order) (low high : Nat) (inside : high ≤ items.length)
    (ordered : low ≤ high) (front : ∀ other ∈ items.take low, order other = .lt)
    (behind : ∀ other ∈ items.drop high, order other = .gt) :
    Settles items order (searchBetween items order low high inside) := by
  have split : ∀ place (isPlace : place < items.length),
      items = items.take place ++ items[place] :: items.drop (place + 1) := by
    intro place isPlace
    rw [← List.drop_eq_getElem_cons isPlace, List.take_append_drop]
  fun_induction searchBetween items order low high inside with
  | case1 low high inside nonempty isAbove isBelow isPlace isEqual =>
    have apart := split _ isPlace ▸ parted
    have settled : Settles items order (.ok (items.take (halfway low high)).length) := by
      apply Settles.found (split _ isPlace) isEqual
      · apply apart.front
        simp [isEqual]
      · apply apart.behind
        simp [isEqual]
    rwa [List.length_take_of_le (Nat.le_of_lt isPlace)] at settled
  | case2 low high inside nonempty isAbove isBelow isPlace isFront ih =>
    have apart := split _ isPlace ▸ parted
    apply ih isBelow _ behind
    intro other member
    rw [← List.take_append_getElem isPlace, List.mem_append, List.mem_singleton] at member
    cases member with
    | inl early => exact apart.front (by simp [isFront]) other early
    | inr here => rw [here, isFront]
  | case3 low high inside nonempty isAbove isBelow isPlace isBehind ih =>
    have apart := split _ isPlace ▸ parted
    apply ih isAbove front
    intro other member
    rw [List.drop_eq_getElem_cons isPlace, List.mem_cons] at member
    cases member with
    | inl here => rw [here, isBehind]
    | inr late => exact apart.behind (by simp [isBehind]) other late
  | case4 low high inside empty =>
    obtain rfl : low = high := by omega
    have settled : Settles items order (.error (items.take low).length) :=
      .missing (List.take_append_drop low items).symm front behind
    rwa [List.length_take_of_le inside] at settled

theorem settles_search (parted : Parted items order) : Settles items order (search items order) := by
  apply settles_searchBetween parted
  · exact Nat.zero_le _
  · simp
  · simp

/-- The place behind an item that is equal, or else the place for it, counts the items that are not behind
what is looked for. -/
theorem count_search (parted : Parted items order) :
    (match search items order with
      | .ok place => place + 1
      | .error place => place) = items.countP fun item => order item ≠ .gt := by
  have early : ∀ {front : List α}, (∀ other ∈ front, order other = .lt) →
      (front.countP fun item => order item ≠ .gt) = front.length := by
    intro front isFront
    rw [List.countP_eq_length]
    intro other member
    simp [isFront other member]
  have late : ∀ {behind : List α}, (∀ other ∈ behind, order other = .gt) →
      (behind.countP fun item => order item ≠ .gt) = 0 := by
    intro behind isBehind
    rw [List.countP_eq_zero]
    intro other member
    simp [isBehind other member]
  have settled := settles_search parted
  generalize search items order = result at settled ⊢
  cases settled with
  | found split isEqual front behind =>
    rw [split, List.countP_append, List.countP_cons, early front, late behind]
    simp [isEqual]
  | missing split front behind =>
    rw [split, List.countP_append, early front, late behind]
    rfl

/-- The item that is found is the one that a search from item to item comes to. -/
theorem getElem?_search (parted : Parted items order) :
    (match search items order with
      | .ok place => items[place]?
      | .error _ => none) = items.find? fun item => order item = .eq := by
  have none : ∀ {others : List α} {side : Ordering}, side ≠ .eq → (∀ other ∈ others, order other = side) →
      others.find? (fun item => order item = .eq) = none := by
    intro others side different isSide
    rw [List.find?_eq_none]
    intro other member
    simp [isSide other member, different]
  have settled := settles_search parted
  generalize search items order = result at settled ⊢
  cases settled with
  | found split isEqual front behind =>
    rw [split, List.find?_append, none (by decide) front]
    simp [isEqual]
  | missing split front behind =>
    rw [split, List.find?_append, none (by decide) front, none (by decide) behind]
    rfl

end

end Lintel
