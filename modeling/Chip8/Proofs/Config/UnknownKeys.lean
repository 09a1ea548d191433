/-
# The list of unknown keys

Dropping repeated keys and sorting the rest is one way to list the unknown keys of a mapping. What
is listed is this: texts that the mapping has for keys and no setting has, all of them, each once,
and in the order of their code points. There is only one such list, so it depends on nothing but
which keys there are.

Keys that are no texts are never taken for texts, so where there is one, it is among the unknown
keys and none of them is listed.
-/

import Chip8.Proofs.Config.Setting
import Chip8.Proofs.Config.TextKeys
import Mathlib.Data.String.Basic

namespace Chip8

/-- The code points of a text. -/
def codePoints (text : String) : List Nat :=
  text.toList.map Char.toNat

theorem codePoints_lt {text later : String} (less : text < later) :
    codePoints text < codePoints later :=
  List.map_lt (fun _ _ => id) (String.lt_iff_toList_lt.mp less)

/-! ## Keys each once -/

/-- Keys that are the same are the same text, or neither is a text. -/
theorem Value.text?_of_sameKey {key other : Value} (same : key.sameKey other = true) :
    key.text? = other.text? := by
  cases key with
  | text key =>
    cases other with
    | text other => exact congrArg some (eq_of_beq same)
    | _ => cases same
  | null | boolean | integer | real | list | mapping | other =>
    cases other with
    | text other => cases same
    | _ => rfl

namespace UnknownKeys

/-- One more key is kept, unless it is there already. -/
def keep (kept : List Value) (key : Value) : List Value :=
  if kept.any (·.sameKey key) then kept else kept ++ [key]

theorem distinct_eq (keys : List Value) : distinct keys = keys.foldl keep [] :=
  rfl

theorem mem_keep_of_mem {kept : List Value} {key : Value} (member : key ∈ kept) (more : Value) :
    key ∈ keep kept more := by
  rw [keep]
  split
  · exact member
  · exact List.mem_append_left [more] member

/-- Of a key that is told, the same key is kept. -/
theorem exists_mem_keep (kept : List Value) (key : Value) :
    ∃ known ∈ keep kept key, known.text? = key.text? := by
  rw [keep]
  split
  · rename_i there
    obtain ⟨known, member, same⟩ := List.any_eq_true.mp there
    exact ⟨known, member, Value.text?_of_sameKey same⟩
  · exact ⟨key, List.mem_append_right kept (List.mem_singleton_self key), rfl⟩

theorem mem_foldl_keep {kept : List Value} {key : Value} (member : key ∈ kept)
    (keys : List Value) : key ∈ keys.foldl keep kept := by
  induction keys generalizing kept with
  | nil => exact member
  | cons first rest ih => exact ih (mem_keep_of_mem member first)

theorem exists_mem_distinct {keys : List Value} {key : Value} (member : key ∈ keys) :
    ∃ known ∈ distinct keys, known.text? = key.text? := by
  rw [distinct_eq]
  generalize ([] : List Value) = kept
  induction keys generalizing kept with
  | nil => cases member
  | cons first rest ih =>
    rcases List.mem_cons.mp member with rfl | later
    · obtain ⟨known, here, same⟩ := exists_mem_keep kept key
      exact ⟨known, mem_foldl_keep here rest, same⟩
    · exact ih later (keep kept first)

theorem pairwise_distinct (keys : List Value) :
    (distinct keys).Pairwise fun key later => key.sameKey later = false := by
  rw [distinct_eq]
  suffices apart : ∀ kept : List Value, kept.Pairwise (fun key later => key.sameKey later = false) →
      (keys.foldl keep kept).Pairwise fun key later => key.sameKey later = false from
    apart [] List.Pairwise.nil
  induction keys with
  | nil => exact fun kept apart => apart
  | cons key rest ih =>
    refine fun kept apart => ih (keep kept key) ?_
    rw [keep]
    split
    · exact apart
    · rename_i new
      refine List.pairwise_append.mpr ⟨apart, List.pairwise_singleton _ key, ?_⟩
      rintro known there _ (_ | ⟨_, ⟨⟩⟩)
      exact Bool.eq_false_iff.mpr fun same => new (List.any_eq_true.mpr ⟨known, there, same⟩)

variable {known : List String} {entries : Entries}

theorem nodup_texts (known : List String) (entries : Entries) :
    ((keysOutside known entries).filterMap Value.text?).Nodup := by
  refine (pairwise_distinct _).filterMap _ ?_
  intro key later apart text isText other isOther same
  rw [Value.eq_text_of_text? isText, Value.eq_text_of_text? isOther, same] at apart
  exact absurd (beq_self_eq_true other) (Bool.eq_false_iff.mp apart)

/-- A key is outside if it is no text, or a text that is not known. -/
theorem exists_mem_keysOutside (known : List String) {key : Value}
    (given : key ∈ entries.map Prod.fst)
    (outside : ∀ text ∈ key.text?, text ∉ known) :
    ∃ told ∈ keysOutside known entries, told.text? = key.text? := by
  refine exists_mem_distinct (List.mem_filter.mpr ⟨given, ?_⟩)
  cases isText : key.text? with
  | none => rfl
  | some text => simpa using outside text isText

/-- The texts outside are the texts that are given and not known. -/
theorem mem_texts_iff {text : String} :
    text ∈ (keysOutside known entries).filterMap Value.text? ↔
      .text text ∈ entries.map Prod.fst ∧ text ∉ known := by
  rw [List.mem_filterMap]
  constructor
  · rintro ⟨key, outside, isText⟩
    obtain ⟨given, unknown⟩ := List.mem_filter.mp (mem_of_mem_distinct outside)
    cases Value.eq_text_of_text? isText
    exact ⟨given, by simpa [Value.text?] using unknown⟩
  · rintro ⟨given, unknown⟩
    refine exists_mem_keysOutside known given ?_
    rintro _ ⟨⟩
    exact unknown

theorem pairwise_mergeSort_lt {texts : List String} (single : texts.Nodup) :
    (texts.mergeSort fun a b => decide (a ≤ b)).Pairwise fun text later => text < later := by
  have ordered : (texts.mergeSort fun a b => decide (a ≤ b)).Pairwise fun text later =>
      decide (text ≤ later) = true := by
    refine List.pairwise_mergeSort (fun a b c first next => ?_) (fun a b => ?_) texts
    · exact decide_eq_true (le_trans (of_decide_eq_true first) (of_decide_eq_true next))
    · simpa using String.le_total a b
  have apart := (List.mergeSort_perm texts fun a b => decide (a ≤ b)).nodup_iff.mpr single
  exact (ordered.and apart).imp fun both => lt_of_le_of_ne (of_decide_eq_true both.1) both.2

/-- Where a key is no text, what is told is no list. -/
theorem ofEntries_of_no_text (known : List String) {key : Value}
    (given : key ∈ entries.map Prod.fst)
    (noText : key.text? = Option.none) :
    (∃ kind, ofEntries known entries = .notText kind) ∨
      ∃ left right, ofEntries known entries = .unordered left right := by
  obtain ⟨told, outside, same⟩ := exists_mem_keysOutside known given (by simp [noText])
  have shorter : ¬ ∀ key ∈ keysOutside known entries, key.text?.isSome = true := by
    intro all
    have isText := all told outside
    rw [same, noText] at isText
    cases isText
  rw [← List.filterMap_length_eq_length] at shorter
  rw [ofEntries]
  cases keys : keysOutside known entries with
  | nil =>
    rw [keys] at outside
    cases outside
  | cons first rest =>
    rw [keys] at shorter
    dsimp only
    rw [if_neg shorter]
    cases leastFrom first rest with
    | ok least => exact .inl ⟨least.kindName, rfl⟩
    | error pair => exact .inr ⟨pair.1.kindName, pair.2.kindName, rfl⟩

/-- The texts among the keys outside, in order. -/
def textsOutside (known : List String) (entries : Entries) : List String :=
  ((keysOutside known entries).filterMap Value.text?).mergeSort fun a b => decide (a ≤ b)

/-- Where all keys are texts, those outside are told, if there are any. -/
theorem ofEntries_eq_of_textKeys (textKeys : entries.TextKeys) :
    ofEntries known entries =
      if textsOutside known entries = [] then .none else .texts (textsOutside known entries) := by
  have all : ∀ key ∈ keysOutside known entries, key.text?.isSome = true :=
    fun key => textKeys_keysOutside textKeys
  rw [← List.filterMap_length_eq_length] at all
  rw [ofEntries, textsOutside]
  cases outside : keysOutside known entries with
  | nil => rw [List.filterMap_nil, List.mergeSort_nil, if_pos rfl]
  | cons first rest =>
    rw [outside] at all
    have some_left : ((first :: rest).filterMap Value.text?).mergeSort (fun a b => decide (a ≤ b)) ≠
        [] := by
      rw [← List.length_pos_iff_ne_nil, List.length_mergeSort, all]
      exact Nat.succ_pos rest.length
    dsimp only
    rw [if_pos all, if_neg some_left]

end UnknownKeys

namespace Config

/-- The list of the unknown keys of a mapping. -/
structure ListsUnknown (entries : Entries) (keys : List String) : Prop where
  ascending : keys.Pairwise fun key later => codePoints key < codePoints later
  mem_iff (key : String) : key ∈ keys ↔ .text key ∈ entries.map Prod.fst ∧ key ∉ knownKeys

variable {entries other : Entries} {keys more : List String}

/-- There is only one list, and it does not depend on the order of the entries. -/
theorem ListsUnknown.unique (lists : ListsUnknown entries keys) (also : ListsUnknown other more)
    (same : ∀ key, key ∉ knownKeys →
      (.text key ∈ entries.map Prod.fst ↔ .text key ∈ other.map Prod.fst)) : keys = more := by
  have single {keys : List String} (ascending : keys.Pairwise fun key later =>
      codePoints key < codePoints later) : keys.Nodup := by
    refine ascending.imp fun less => ?_
    rintro rfl
    exact lt_irrefl _ less
  -- both are permutations of one another, and both ascend
  refine List.Perm.eq_of_pairwise (fun key later _ _ less more => ?_) lists.ascending
    also.ascending ((List.perm_ext_iff_of_nodup (single lists.ascending)
      (single also.ascending)).mpr fun key => ?_)
  · exact absurd (lt_trans less more) (lt_irrefl _)
  · rw [lists.mem_iff, also.mem_iff]
    exact and_congr_left (same key)

/-- Unknown keys that are texts are refused with their list. -/
theorem checkKeys_of_textKeys (textKeys : entries.TextKeys) :
    ∃ keys, ListsUnknown entries keys ∧
      checkKeys entries = if keys = [] then .ok () else .error (.unknownKeys keys) := by
  refine ⟨UnknownKeys.textsOutside knownKeys entries, ⟨?_, fun key => ?_⟩, ?_⟩
  · have single := UnknownKeys.nodup_texts knownKeys entries
    exact (UnknownKeys.pairwise_mergeSort_lt single).imp codePoints_lt
  · rw [UnknownKeys.textsOutside, List.mem_mergeSort]
    exact UnknownKeys.mem_texts_iff
  · rw [checkKeys, UnknownKeys.ofEntries_eq_of_textKeys textKeys]
    by_cases none_left : UnknownKeys.textsOutside knownKeys entries = []
    · rw [if_pos none_left, if_pos none_left]
    · rw [if_neg none_left, if_neg none_left]

/-- A key that is no text is refused, but not with a complaint. -/
theorem checkKeys_of_no_text {key : Value} (given : key ∈ entries.map Prod.fst)
    (noText : key.text? = none) :
    ∃ failure, checkKeys entries = .error failure ∧ failure.isComplaint = false := by
  rw [checkKeys]
  rcases UnknownKeys.ofEntries_of_no_text knownKeys given noText with
    ⟨kind, told⟩ | ⟨left, right, told⟩
  · rw [told]
    exact ⟨.keyNotText kind, rfl, rfl⟩
  · rw [told]
    exact ⟨.keysUnordered left right, rfl, rfl⟩

end Config

end Chip8
