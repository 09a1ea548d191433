/-
# Mappings whose keys are texts

A caller's mapping has texts for keys. Then unknown keys can always be listed, and whatever
is wrong with the configuration is a complaint that callers expect. The two failures that are
none come from keys that are no texts, which only documents can have.
-/

import Chip8.Config.Load

namespace Chip8

/-- Every key is a text. -/
def Entries.TextKeys (entries : Entries) : Prop :=
  ∀ entry ∈ entries, ∃ key, entry.1 = .text key

namespace UnknownKeys

theorem mem_of_mem_distinct {keys : List Value} {key : Value} (member : key ∈ distinct keys) :
    key ∈ keys := by
  rw [distinct] at member
  suffices kept : ∀ before : List Value,
      key ∈ keys.foldl (fun kept key => if kept.any (·.sameKey key) then kept else kept ++ [key])
        before → key ∈ before ∨ key ∈ keys by
    exact (kept [] member).resolve_left List.not_mem_nil
  clear member
  induction keys with
  | nil => exact fun before => .inl
  | cons first rest ih =>
    intro before later
    rw [List.foldl_cons] at later
    rcases ih _ later with early | late
    · split at early
      · exact .inl early
      · rcases List.mem_append.mp early with earlier | new
        · exact .inl earlier
        · exact .inr (List.mem_cons.mpr (.inl (List.mem_singleton.mp new)))
    · exact .inr (List.mem_cons_of_mem first late)

variable {known : List String} {entries : Entries}

theorem textKeys_keysOutside (textKeys : entries.TextKeys) {key : Value}
    (member : key ∈ keysOutside known entries) : key.text?.isSome = true := by
  have outside := (List.mem_filter.mp (mem_of_mem_distinct member)).1
  obtain ⟨entry, given, rfl⟩ := List.mem_map.mp outside
  obtain ⟨text, same⟩ := textKeys entry given
  rw [same]
  rfl

/-- Unknown keys that are texts are listed. -/
theorem ofEntries_of_textKeys (textKeys : entries.TextKeys) :
    ofEntries known entries = .none ∨ ∃ keys, ofEntries known entries = .texts keys := by
  have texts : ∀ key ∈ keysOutside known entries, key.text?.isSome = true :=
    fun key => textKeys_keysOutside textKeys
  rw [ofEntries]
  cases outside : keysOutside known entries with
  | nil => exact .inl rfl
  | cons first rest =>
    rw [outside, ← List.filterMap_length_eq_length] at texts
    exact .inr ⟨_, if_pos texts⟩

end UnknownKeys

namespace Config

/-- Whatever is wrong is a complaint. -/
def Complains {α : Type} (answer : Except Failure α) : Prop :=
  ∀ failure, answer = .error failure → failure.isComplaint = true

theorem complains_ok {α : Type} (value : α) : Complains (.ok value : Except Failure α) := by
  intro failure failed
  cases failed

theorem complains_error {α : Type} {failure : Failure} (complaint : failure.isComplaint = true) :
    Complains (.error failure : Except Failure α) := by
  intro other failed
  cases failed
  exact complaint

theorem complains_bind {α β : Type} {first : Except Failure α} {next : α → Except Failure β}
    (complains : Complains first) (later : ∀ value, Complains (next value)) :
    Complains (first >>= next) := by
  cases first with
  | error failure => exact complains_error (complains failure rfl)
  | ok value => exact later value

theorem complains_setting {α : Type} (entries : Entries) (key : String) (default : α)
    (convert : Value → Except ConversionFault α) :
    Complains (setting entries key default convert) := by
  rw [setting]
  cases entries.find? key with
  | none => exact complains_ok default
  | some value =>
    dsimp only
    cases convert value with
    | ok converted => exact complains_ok converted
    | error fault => exact complains_error rfl

theorem complains_checkKeys {entries : Entries} (textKeys : entries.TextKeys) :
    Complains (checkKeys entries) := by
  rw [checkKeys]
  rcases UnknownKeys.ofEntries_of_textKeys textKeys with none_unknown | ⟨keys, unknown⟩
  · rw [none_unknown]
    exact complains_ok ()
  · rw [unknown]
    exact complains_error rfl

/-- Settings, limits and unknown keys give rise to nothing but complaints. -/
theorem complains_ofEntries {entries : Entries} (textKeys : entries.TextKeys) :
    Complains (ofEntries entries) := by
  unfold ofEntries
  refine complains_bind (complains_setting entries _ _ _) fun tickLimit => ?_
  refine complains_bind (complains_setting entries _ _ _) fun pauseTick => ?_
  refine complains_bind (complains_setting entries _ _ _) fun stepsPerTimerTick => ?_
  refine complains_bind (complains_setting entries _ _ _) fun seed => ?_
  refine complains_bind (complains_setting entries _ _ _) fun shiftFlagFromLowBit => ?_
  refine complains_bind (complains_setting entries _ _ _) fun loadFont => ?_
  refine complains_bind (complains_setting entries _ _ _) fun quiet => ?_
  split
  · split
    · split
      · exact complains_bind (complains_checkKeys textKeys) fun _ => complains_ok _
      · exact complains_error rfl
    · exact complains_error rfl
  · exact complains_error rfl

/-- A caller who gives nothing, or a mapping with text keys, hears nothing but complaints. -/
theorem complains_load_given (parser : Parser) (directory : Directory) {entries : Option Entries}
    (textKeys : ∀ mapping ∈ entries, Entries.TextKeys mapping) :
    Complains (load parser directory (given entries)) := by
  cases entries with
  | none => exact complains_ofEntries fun _ member => absurd member List.not_mem_nil
  | some mapping => exact complains_ofEntries (textKeys mapping rfl)

/-- A configuration written out is loaded as it is. -/
theorem load_given_toEntries (parser : Parser) (directory : Directory) (config : Config) :
    load parser directory (given (some config.toEntries)) = .ok config :=
  ofEntries_toEntries config

end Config

end Chip8
