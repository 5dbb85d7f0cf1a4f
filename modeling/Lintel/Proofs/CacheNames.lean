import Lintel.Proofs.DiskCache

/-!
# Names of the files of a cache

A file of the cache is named after a digest that begins like its directory. The name of an entry ends in
`.json`, that of a file to which an entry is written first in two numbers and `.tmp`.
-/

set_option autoImplicit false

namespace Lintel.DiskCache

/-- Some lower-case hexadecimal digits. -/
def HexDigits (text : List Char) : Prop := ∀ c ∈ text, c ∈ Digest.digits

structure IsDigest (text : List Char) : Prop where
  length_eq : text.length = 64
  digits : HexDigits text

structure IsShard (name : String) : Prop where
  length_eq : name.toList.length = 2
  digits : HexDigits name.toList

structure IsDecimal (text : List Char) : Prop where
  nonempty : text ≠ []
  digits : ∀ c ∈ text, c.isDigit = true

/-- The names of the files of a cache in a directory. -/
inductive IsCacheName (shard : String) (name : String) : Prop where
  | entry {digest : List Char} : IsDigest digest → shard.toList <+: digest →
      name.toList = digest ++ ".json".toList → IsCacheName shard name
  | temporary {digest process count : List Char} : IsDigest digest → shard.toList <+: digest →
      IsDecimal process → IsDecimal count →
      name.toList = digest ++ '.' :: (process ++ '.' :: (count ++ ".tmp".toList)) → IsCacheName shard name

/-! ## Digits -/

theorem isHexDigit_iff (c : Char) : isHexDigit c = true ↔ c ∈ Digest.digits := by
  have small : ∀ code < 128, isHexDigit (Char.ofNat code) = true ↔ Char.ofNat code ∈ Digest.digits := by
    decide +kernel
  rcases Nat.lt_or_ge c.toNat 128 with below | above
  · have here := small c.toNat below
    rwa [Char.ofNat_toNat] at here
  · -- every digit has a small code
    constructor
    · intro isDigit
      simp only [isHexDigit, Bool.or_eq_true, Bool.and_eq_true, decide_eq_true_eq] at isDigit
      exfalso
      rcases isDigit with ⟨-, most⟩ | ⟨-, most⟩
      · have bound : c.toNat ≤ '9'.toNat := most
        have nine : '9'.toNat = 57 := rfl
        omega
      · have bound : c.toNat ≤ 'f'.toNat := most
        have last : 'f'.toNat = 102 := rfl
        omega
    · intro member
      have bounds : (Digest.digits.all fun digit => digit.toNat < 128) = true := by decide
      have bound : c.toNat < 128 := of_decide_eq_true (List.all_eq_true.mp bounds c member)
      exact absurd bound (Nat.not_lt.mpr above)

theorem all_isHexDigit_iff (text : List Char) : text.all isHexDigit = true ↔ HexDigits text := by
  simp only [List.all_eq_true, isHexDigit_iff, HexDigits]

theorem isShardName_iff (name : String) : isShardName name = true ↔ IsShard name := by
  rw [isShardName, Bool.and_eq_true, decide_eq_true_eq, all_isHexDigit_iff]
  exact ⟨fun ⟨length_eq, digits⟩ => ⟨length_eq, digits⟩, fun ⟨length_eq, digits⟩ => ⟨length_eq, digits⟩⟩

theorem isNumber_iff (text : List Char) : isNumber text = true ↔ IsDecimal text := by
  rw [isNumber, Bool.and_eq_true, Bool.not_eq_true', List.isEmpty_eq_false_iff, List.all_eq_true]
  exact ⟨fun ⟨nonempty, digits⟩ => ⟨nonempty, digits⟩, fun ⟨nonempty, digits⟩ => ⟨nonempty, digits⟩⟩

/-! ## Names -/

theorem IsDecimal.noDot {text : List Char} (isDecimal : IsDecimal text) : '.' ∉ text := by
  intro dot
  exact absurd (isDecimal.digits '.' dot) (by decide)

theorem isTemporaryEnding_iff (ending : List Char) :
    isTemporaryEnding ending = true ↔ ∃ process count, IsDecimal process ∧ IsDecimal count ∧
      ending = '.' :: (process ++ '.' :: (count ++ ".tmp".toList)) := by
  have joined : ∀ process count : List Char, ['.'].intercalate [[], process, count, "tmp".toList] =
      '.' :: (process ++ '.' :: (count ++ ".tmp".toList)) := by
    intro process count
    simp [List.intercalate_cons_cons]
  constructor
  · intro isEnding
    unfold isTemporaryEnding at isEnding
    split at isEnding
    · rename_i process count last pieces
      simp only [Bool.and_eq_true, isNumber_iff, decide_eq_true_eq] at isEnding
      obtain ⟨⟨isProcess, isCount⟩, rfl⟩ := isEnding
      exact ⟨process, count, isProcess, isCount,
        (Text.splitAll_eq_iff.mp pieces).joined.symm.trans (joined process count)⟩
    · cases isEnding
  · rintro ⟨process, count, isProcess, isCount, rfl⟩
    have pieces : Text.splitAll '.' ('.' :: (process ++ '.' :: (count ++ ".tmp".toList))) =
        [[], process, count, "tmp".toList] := by
      refine Text.splitAll_eq_iff.mpr ⟨List.cons_ne_nil _ _, ?_, joined process count⟩
      simp only [List.forall_mem_cons]
      exact ⟨List.not_mem_nil, isProcess.noDot, isCount.noDot, by decide, by simp⟩
    simp only [isTemporaryEnding, pieces, (isNumber_iff process).mpr isProcess, (isNumber_iff count).mpr isCount,
      decide_true, Bool.and_self]

private theorem take_drop_of_digest {digest : List Char} (isDigest : IsDigest digest) (ending : List Char) :
    (digest ++ ending).take 64 = digest ∧ (digest ++ ending).drop 64 = ending := by
  rw [← isDigest.length_eq]
  exact ⟨List.take_left, List.drop_left⟩

theorem isCacheFileName_iff (shard name : String) :
    isCacheFileName shard name = true ↔ IsCacheName shard name := by
  have isName : ∀ {digest ending : List Char}, name.toList = digest ++ ending → IsDigest digest →
      (isCacheFileName shard name = true ↔
        shard.toList <+: digest ∧ (isEntryEnding ending = true ∨ isTemporaryEnding ending = true)) := by
    intro digest ending written isDigest
    obtain ⟨front, back⟩ := take_drop_of_digest isDigest ending
    simp only [isCacheFileName, written, front, back, Bool.and_eq_true, Bool.or_eq_true, decide_eq_true_eq,
      all_isHexDigit_iff, List.isPrefixOf_iff_prefix, isDigest.length_eq, isDigest.digits, true_and]
  constructor
  · intro holds
    have isDigest : IsDigest (name.toList.take 64) := by
      simp only [isCacheFileName, Bool.and_eq_true, decide_eq_true_eq, all_isHexDigit_iff] at holds
      exact ⟨holds.1.1.1, holds.1.1.2⟩
    have written : name.toList = name.toList.take 64 ++ name.toList.drop 64 :=
      (List.take_append_drop 64 name.toList).symm
    obtain ⟨begins, isEntry | isTemporary⟩ := (isName written isDigest).mp holds
    · refine .entry isDigest begins (written.trans ?_)
      rw [of_decide_eq_true isEntry]
    · obtain ⟨process, count, isProcess, isCount, ends⟩ := (isTemporaryEnding_iff _).mp isTemporary
      refine .temporary isDigest begins isProcess isCount (written.trans ?_)
      rw [ends]
  · rintro (⟨isDigest, begins, written⟩ | ⟨isDigest, begins, isProcess, isCount, written⟩)
    · exact (isName written isDigest).mpr ⟨begins, .inl (decide_eq_true rfl)⟩
    · exact (isName written isDigest).mpr
        ⟨begins, .inr ((isTemporaryEnding_iff _).mpr ⟨_, _, isProcess, isCount, rfl⟩)⟩

/-- A file of the cache is an entry if and only if its name ends in `.json`. -/
theorem isEntryEnding_iff {shard name : String} (isCacheName : IsCacheName shard name) :
    isEntryEnding (name.toList.drop 64) = true ↔ ".json".toList <:+ name.toList := by
  cases isCacheName with
  | entry isDigest _ written =>
    rw [written, (take_drop_of_digest isDigest _).2]
    exact ⟨fun _ => List.suffix_append _ _, fun _ => decide_eq_true rfl⟩
  | @temporary digest process count isDigest _ _ _ written =>
    rw [written, (take_drop_of_digest isDigest _).2]
    constructor
    · intro isEntry
      have lasts := congrArg (fun text => text.reverse.head?) (of_decide_eq_true isEntry)
      simp at lasts
    · rintro ⟨front, same⟩
      have lasts := congrArg (fun text => text.reverse.head?) same
      simp at lasts

/-! ## Names that stores use -/

theorem isDigest_digest (key : CacheKey) : IsDigest key.digest.toList :=
  ⟨key.length_digest, fun _ => CacheKey.mem_digits_of_mem_digest⟩

theorem isShard_shardName (key : CacheKey) : IsShard (shardName key.digest) where
  length_eq := by
    rw [shardName, String.toList_ofList, List.length_take, key.length_digest]
    rfl
  digits := by
    intro c member
    rw [shardName, String.toList_ofList] at member
    exact CacheKey.mem_digits_of_mem_digest (List.mem_of_mem_take member)

theorem isCacheName_entryName (key : CacheKey) : IsCacheName (shardName key.digest) (entryName key.digest) := by
  refine .entry (isDigest_digest key) ?_ String.toList_append
  rw [shardName, String.toList_ofList]
  exact List.take_prefix 2 _

end Lintel.DiskCache
