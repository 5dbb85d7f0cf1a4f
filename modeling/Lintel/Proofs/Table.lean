import Lintel.Proofs.DiagnosticOrder
import Lintel.Table

/-!
# Look-ups in tables

What inserting does to look-ups, for any list of entries, and what it does to the order of the keys. A
table whose keys ascend strictly is determined by its look-ups.
-/

set_option autoImplicit false

namespace Lintel.Table

variable {α : Type}

/-! ## Entries -/

theorem mem_insert {key : String} {value : α} {table : Table α} {entry : String × α}
    (member : entry ∈ insert key value table) : entry = (key, value) ∨ entry ∈ table := by
  induction table with
  | nil => exact .inl (List.mem_singleton.mp member)
  | cons first rest ih =>
    rw [insert] at member
    split at member
    · exact (List.mem_cons.mp member).imp id (List.mem_cons_of_mem _)
    · split at member
      · exact List.mem_cons.mp member
      · rcases List.mem_cons.mp member with same | inside
        · exact .inr (same ▸ List.mem_cons_self)
        · exact (ih inside).imp id (List.mem_cons_of_mem _)

theorem mem_of_mem_ofList {entries : List (String × α)} {entry : String × α}
    (member : entry ∈ ofList entries) : entry ∈ entries := by
  have grown : ∀ (later : List (String × α)) (table : Table α),
      entry ∈ later.foldl (fun table item => insert item.1 item.2 table) table →
        entry ∈ later ∨ entry ∈ table := by
    intro later
    induction later with
    | nil => exact fun _ inside => .inr inside
    | cons next later ih =>
      intro table inside
      rcases ih _ inside with found | found
      · exact .inl (List.mem_cons_of_mem _ found)
      · rcases mem_insert found with rfl | earlier
        · exact .inl List.mem_cons_self
        · exact .inr earlier
  exact (grown entries [] member).resolve_right List.not_mem_nil

theorem mem_of_find? {key : String} {value : α} {table : Table α} (found : find? key table = some value) :
    (key, value) ∈ table := by
  induction table with
  | nil => cases found
  | cons first rest ih =>
    rw [find?] at found
    split at found
    · rename_i same
      rw [same, ← Option.some.inj found]
      exact List.mem_cons_self
    · exact List.mem_cons_of_mem _ (ih found)

theorem insert_of_absent {key : String} {table : Table α} (absent : find? key table = none) (value : α) :
    ∃ before after, table = before ++ after ∧
      insert key value table = before ++ (key, value) :: after := by
  induction table with
  | nil => exact ⟨[], [], rfl, rfl⟩
  | cons first rest ih =>
    obtain ⟨here, held⟩ := first
    have other : key ≠ here := by
      intro same
      simp [find?, same] at absent
    rw [find?, if_neg other] at absent
    by_cases earlier : keyPrecedes key here = true
    · exact ⟨[], (here, held) :: rest, rfl, by rw [insert, if_neg other, if_pos earlier]; rfl⟩
    · obtain ⟨before, after, split, inserted⟩ := ih absent
      refine ⟨(here, held) :: before, after, ?_, ?_⟩
      · rw [split, List.cons_append]
      · rw [insert, if_neg other, if_neg earlier, inserted, List.cons_append]

/-! ## Look-ups -/

/-- Inserting changes the look-up of one key. The keys may stand in any order. -/
theorem find?_insert (key other : String) (value : α) (table : Table α) :
    find? other (insert key value table) = if other = key then some value else find? other table := by
  induction table with
  | nil => rfl
  | cons first rest ih =>
    obtain ⟨here, held⟩ := first
    by_cases same : key = here
    · subst here
      by_cases asked : other = key
      · simp [insert, find?, asked]
      · simp [insert, find?, asked]
    · by_cases earlier : keyPrecedes key here = true
      · simp [insert, find?, same, earlier]
      · rw [insert, if_neg same, if_neg earlier, find?, ih, find?]
        by_cases asked : other = key
        · subst other
          rw [if_neg same, if_pos rfl, if_pos rfl]
        · rw [if_neg asked, if_neg asked]

theorem find?_eq_none_iff {key : String} {table : Table α} :
    find? key table = none ↔ key ∉ table.map Prod.fst := by
  induction table with
  | nil => simp [find?]
  | cons first rest ih =>
    by_cases same : key = first.1
    · simp [find?, same]
    · simp [find?, same, ih]

theorem find?_append (key : String) (first second : Table α) :
    find? key (first ++ second) = (find? key first).or (find? key second) := by
  induction first with
  | nil => rfl
  | cons entry first ih =>
    rw [List.cons_append, find?, find?, ih]
    split <;> rfl

/-- Of several entries with one key a table has the last. -/
theorem find?_ofList (key : String) (entries : List (String × α)) :
    find? key (ofList entries) = find? key entries.reverse := by
  have grown : ∀ (later : List (String × α)) (table : Table α),
      find? key (later.foldl (fun table item => insert item.1 item.2 table) table) =
        (find? key later.reverse).or (find? key table) := by
    intro later
    induction later with
    | nil => exact fun _ => rfl
    | cons entry later ih =>
      intro table
      rw [List.foldl_cons, ih, find?_insert, List.reverse_cons, find?_append, Option.or_assoc, find?]
      split <;> rfl
  rw [ofList, grown, find?, Option.or_none]

/-- Building a table finds exactly the keys that were given. -/
theorem isSome_find?_ofList (key : String) (entries : List (String × α)) :
    (find? key (ofList entries)).isSome = true ↔ key ∈ entries.map Prod.fst := by
  rw [find?_ofList, Option.isSome_iff_ne_none, ne_eq, find?_eq_none_iff, not_not, List.map_reverse,
    List.mem_reverse]

theorem mem_sortedSet {text : String} (texts : List String) : text ∈ sortedSet texts ↔ text ∈ texts := by
  have found := isSome_find?_ofList text (texts.map fun text => (text, ()))
  rw [List.map_map, show (Prod.fst ∘ fun text : String => (text, ())) = id from rfl, List.map_id] at found
  rw [← found, sortedSet, keys, Option.isSome_iff_ne_none, ne_eq, find?_eq_none_iff, not_not]

/-! ## Keys in order -/

/-- Entries whose keys ascend strictly. -/
def Ascending (table : Table α) : Prop :=
  table.Pairwise fun first second => orderText first.1 second.1 = .lt

theorem ascending_insert (key : String) (value : α) {table : Table α} (ascending : Ascending table) :
    Ascending (insert key value table) := by
  induction table with
  | nil => exact List.pairwise_singleton _ _
  | cons first rest ih =>
    obtain ⟨leading, remaining⟩ := List.pairwise_cons.mp ascending
    rw [insert]
    by_cases same : key = first.1
    · rw [if_pos same]
      refine List.pairwise_cons.mpr ⟨fun entry member => ?_, remaining⟩
      rw [same]
      exact leading entry member
    · rw [if_neg same]
      by_cases earlier : keyPrecedes key first.1 = true
      · have below : orderText key first.1 = .lt := by simp [orderText, same, earlier]
        rw [if_pos earlier]
        refine List.pairwise_cons.mpr ⟨fun entry member => ?_, ascending⟩
        rcases List.mem_cons.mp member with rfl | later
        · exact below
        · exact Std.TransCmp.lt_trans below (leading entry later)
      · have above : orderText key first.1 = .gt := by simp [orderText, same, earlier]
        rw [if_neg earlier]
        refine List.pairwise_cons.mpr ⟨fun entry member => ?_, ih remaining⟩
        rcases mem_insert member with rfl | later
        · exact Std.OrientedCmp.lt_of_gt above
        · exact leading entry later

theorem ascending_ofList (entries : List (String × α)) : Ascending (ofList entries) := by
  have grown : ∀ (later : List (String × α)) (table : Table α), Ascending table →
      Ascending (later.foldl (fun table item => insert item.1 item.2 table) table) := by
    intro later
    induction later with
    | nil => exact fun _ ascending => ascending
    | cons next later ih => exact fun _ ascending => ih _ (ascending_insert next.1 next.2 ascending)
  exact grown entries [] List.Pairwise.nil

/-- A key behind all others is put at the end. -/
theorem insert_last {table : Table α} {key : String} {value : α}
    (ascending : Ascending (table ++ [(key, value)])) : insert key value table = table ++ [(key, value)] := by
  induction table with
  | nil => rfl
  | cons first rest ih =>
    obtain ⟨leading, remaining⟩ := List.pairwise_cons.mp ascending
    have below : orderText first.1 key = .lt := leading (key, value) (by simp)
    have above : orderText key first.1 = .gt := Std.OrientedCmp.gt_of_lt below
    rw [orderText] at above
    split at above
    · cases above
    · rename_i different
      split at above
      · cases above
      · rename_i notEarlier
        rw [insert, if_neg different, if_neg notEarlier, ih remaining, List.cons_append]

theorem Ascending.nodup_keys {table : Table α} (ascending : Ascending table) : (table.map Prod.fst).Nodup :=
  List.pairwise_map.mpr (ascending.imp ne_of_orderText_lt)

theorem Ascending.mem_iff {table : Table α} (ascending : Ascending table) (key : String) (value : α) :
    (key, value) ∈ table ↔ find? key table = some value := by
  refine ⟨fun member => ?_, mem_of_find?⟩
  induction table with
  | nil => cases member
  | cons first rest ih =>
    obtain ⟨leading, remaining⟩ := List.pairwise_cons.mp ascending
    rcases List.mem_cons.mp member with rfl | later
    · simp [find?]
    · rw [find?, if_neg (ne_of_orderText_lt (leading _ later)).symm]
      exact ih remaining later

/-- No two different tables in order have the same look-ups. -/
theorem Ascending.eq_of_find? {first second : Table α} (firstAscending : Ascending first)
    (secondAscending : Ascending second) (same : ∀ key, find? key first = find? key second) :
    first = second := by
  have := transCmp_by (fun entry : String × α => entry.1) orderText
  refine eq_of_strictly_ascending firstAscending secondAscending ?_
  rintro ⟨key, value⟩
  rw [firstAscending.mem_iff, secondAscending.mem_iff, same]

end Lintel.Table
