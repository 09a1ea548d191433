/-
# Spellings of settings

A caller may give an integer as a text of its decimals and a truth value as a word. Both may have
white space around, the digits may be set apart by underscores, and the letters may be of either
case. A mapping in which some values are respelled in this way is loaded as before: to the same
configuration, or to the same failure. That holds of values within the limits and of others, since
all values are converted before any limit is looked at.
-/

import Chip8.Proofs.Config.Setting
import Chip8.Proofs.Config.TextKeys
import Chip8.Proofs.Text.Decimal
import Chip8.Yaml.Document
import Mathlib.Data.List.TakeWhile

namespace Chip8

/-! ## Words -/

namespace Text

/-- White space around a text without any is all that is dropped. -/
theorem trim_padded {before inner after : List Char}
    (blank_before : ∀ character ∈ before, isBlank character = true)
    (solid : ∀ character ∈ inner, isBlank character = false)
    (blank_after : ∀ character ∈ after, isBlank character = true) :
    trim (before ++ (inner ++ after)) = inner := by
  rw [trim, trimBy]
  cases inner with
  | nil =>
    rw [List.nil_append, List.dropWhile_append_of_pos blank_before,
      List.dropWhile_eq_nil_iff.mpr blank_after]
    rfl
  | cons first rest =>
    have front := (@span_exact isBlank before ((first :: rest) ++ after) blank_before
      (by rintro _ ⟨⟩; exact solid first List.mem_cons_self)).2
    have behind := (@span_exact isBlank after.reverse (first :: rest).reverse
      (fun character member => blank_after character (List.mem_reverse.mp member))
      fun character last =>
        solid character (List.mem_reverse.mp (List.mem_of_head? last))).2
    rw [front, List.reverse_append, behind, List.reverse_reverse]

/-- The characters of a text are these letters, each in either case. -/
def Letters (spelled letters : List Char) : Prop :=
  List.Forall₂ (fun character letter => character = letter ∨ character = letter.toUpper)
    spelled letters

/-- Letters are found again in lower case, and none of them is white space. -/
theorem Letters.lower {spelled letters : List Char} (spells : Letters spelled letters)
    (known : ∃ word ∈ trueWords ++ falseWords, letters ⊆ word.toList) :
    spelled.map Char.toLower = letters ∧ ∀ character ∈ spelled, isBlank character = false := by
  have of_letter : ((trueWords ++ falseWords).all fun word => word.toList.all fun letter =>
      [letter, letter.toUpper].all fun character =>
        character.toLower == letter && !isBlank character) = true := by
    decide
  simp only [List.all_eq_true, Bool.and_eq_true, beq_iff_eq, Bool.not_eq_true'] at of_letter
  obtain ⟨word, member, inside⟩ := known
  induction spells with
  | nil => exact ⟨rfl, nofun⟩
  | @cons character letter _ _ either _ ih =>
    obtain ⟨lower, solid⟩ := of_letter word member letter (inside List.mem_cons_self) character
      (by simpa using either)
    obtain ⟨later, all⟩ := ih (List.subset_of_cons_subset inside)
    exact ⟨by rw [List.map_cons, lower, later], List.forall_mem_cons.mpr ⟨solid, all⟩⟩

/-- A text is one of these words, in letters of either case and with white space around. -/
inductive SpellsWord (words : List String) : List Char → Prop
  | padded {before spelled after : List Char} {word : String} (member : word ∈ words)
    (blank_before : ∀ character ∈ before, isPlainBlank character = true)
    (letters : Letters spelled word.toList)
    (blank_after : ∀ character ∈ after, isPlainBlank character = true) :
    SpellsWord words (before ++ (spelled ++ after))

/-- The word is found. -/
theorem wordOf_of_spells {words : List String} {text : List Char} (spells : SpellsWord words text)
    (known : words ⊆ trueWords ++ falseWords) : wordOf (String.ofList text) ∈ words := by
  obtain @⟨before, spelled, after, word, member, blank_before, letters, blank_after⟩ := spells
  have blank {padding : List Char} (plain : ∀ character ∈ padding, isPlainBlank character = true) :
      ∀ character ∈ padding, isBlank character = true := fun character inside =>
    Bool.or_eq_true_iff.mpr (.inl (Bool.or_eq_true_iff.mpr (.inl (plain character inside))))
  obtain ⟨lower, solid⟩ := letters.lower ⟨word, known member, fun _ => id⟩
  rw [wordOf, String.toList_ofList, trim_padded (blank blank_before) solid (blank blank_after),
    lower, String.ofList_toList]
  exact member

end Text

/-! ## Values -/

namespace Value

theorem toInteger_of_spells {number : Int} {text : List Char}
    (spells : Text.SpellsInteger number text)
    (few : (Nat.toDigits 10 number.natAbs).length ≤ Text.digitLimit) :
    toInteger (.text (String.ofList text)) = .ok number := by
  rw [toInteger, String.toList_ofList, Text.readInteger_of_spells spells few]

theorem toBoolean_of_spells {flag : Bool} {text : List Char}
    (spells : Text.SpellsWord (if flag then trueWords else falseWords) text) :
    toBoolean (.text (String.ofList text)) = .ok flag := by
  cases flag with
  | true =>
    have word := Text.wordOf_of_spells spells (by decide)
    exact toBoolean_eq_ok_iff.mpr (.yes word)
  | false =>
    have word := Text.wordOf_of_spells spells (by decide)
    exact toBoolean_eq_ok_iff.mpr (.no word)

end Value

/-! ## Mappings -/

namespace Config

/-- The keys of the settings that are integers. -/
def integerKeys : List String := ["tick_limit", "pause_tick", "steps_per_timer_tick", "rng_seed"]

/-- The keys of the settings that are truth values. -/
def flagKeys : List String := ["shift_flag_lsb", "load_font", "lenient_log"]

/-- An entry of a mapping is another one with its value as it is or respelled. -/
inductive Respells : Value × Value → Value × Value → Prop
  | same (entry : Value × Value) : Respells entry entry
  | integer {key : String} {number : Int} {text : List Char} (member : key ∈ integerKeys)
    (few : (Nat.toDigits 10 number.natAbs).length ≤ Text.digitLimit)
    (spells : Text.SpellsInteger number text) :
    Respells (.text key, .integer number) (.text key, .text (String.ofList text))
  | flag {key : String} {flag : Bool} {text : List Char} (member : key ∈ flagKeys)
    (spells : Text.SpellsWord (if flag then trueWords else falseWords) text) :
    Respells (.text key, .boolean flag) (.text key, .text (String.ofList text))

theorem not_mem_flagKeys {key : String} (member : key ∈ integerKeys) : key ∉ flagKeys := by
  revert key
  decide

section Respelled

variable {entries other : Entries} {key : String} {value spelled : Value}

theorem Respells.toInteger_eq (respells : Respells (.text key, value) (.text key, spelled))
    (member : key ∈ integerKeys) : spelled.toInteger = value.toInteger := by
  cases respells with
  | same => rfl
  | integer _ few spells => exact Value.toInteger_of_spells spells few
  | flag also => exact absurd also (not_mem_flagKeys member)

theorem Respells.toInteger?_eq (respells : Respells (.text key, value) (.text key, spelled))
    (member : key ∈ integerKeys) : spelled.toInteger? = value.toInteger? := by
  cases respells with
  | same => rfl
  | integer _ few spells =>
    exact congrArg (Except.map some) (Value.toInteger_of_spells spells few)
  | flag also => exact absurd also (not_mem_flagKeys member)

theorem Respells.toBoolean_eq (respells : Respells (.text key, value) (.text key, spelled))
    (member : key ∈ flagKeys) : spelled.toBoolean = value.toBoolean := by
  cases respells with
  | same => rfl
  | integer also => exact absurd member (not_mem_flagKeys also)
  | flag _ spells => exact Value.toBoolean_of_spells spells

theorem Respells.fst_eq {entry other : Value × Value} (respells : Respells entry other) :
    other.1 = entry.1 := by
  cases respells with
  | same | integer | flag => rfl

/-- What is found under a key is found respelled. -/
theorem find?_respelled (respelled : List.Forall₂ Respells entries other) (key : String) :
    (entries.find? key = none ∧ other.find? key = none) ∨
      ∃ value spelled, entries.find? key = some value ∧ other.find? key = some spelled ∧
        Respells (.text key, value) (.text key, spelled) := by
  induction respelled with
  | nil => exact .inl ⟨rfl, rfl⟩
  | @cons entry entry' rest rest' respells _ ih =>
    rw [Entries.find?_cons, Entries.find?_cons]
    rcases ih with ⟨nothing, nothing'⟩ | ⟨value, spelled, found, found', alike⟩
    · rw [nothing, nothing', Option.none_or, Option.none_or, respells.fst_eq]
      by_cases here : entry.1.text? = some key
      · refine .inr ⟨entry.2, entry'.2, if_pos here, if_pos here, ?_⟩
        rw [← Value.eq_text_of_text? here]
        nth_rewrite 2 [← respells.fst_eq]
        exact respells
      · exact .inl ⟨if_neg here, if_neg here⟩
    · rw [found, found', Option.some_or, Option.some_or]
      exact .inr ⟨value, spelled, rfl, rfl, alike⟩

/-- A setting is converted alike, if what is given for it is. -/
theorem setting_respelled {α : Type} {convert : Value → Except ConversionFault α}
    (respelled : List.Forall₂ Respells entries other) (default : α)
    (alike : ∀ value spelled, Respells (.text key, value) (.text key, spelled) →
      convert spelled = convert value) :
    setting other key default convert = setting entries key default convert := by
  rw [setting, setting]
  rcases find?_respelled respelled key with
    ⟨nothing, nothing'⟩ | ⟨value, spelled, found, found', both⟩
  · rw [nothing, nothing']
  · rw [found, found']
    simp only [alike value spelled both]

theorem map_fst_respelled (respelled : List.Forall₂ Respells entries other) :
    other.map Prod.fst = entries.map Prod.fst := by
  induction respelled with
  | nil => rfl
  | cons respells _ ih => rw [List.map_cons, List.map_cons, respells.fst_eq, ih]

theorem checkKeys_respelled (respelled : List.Forall₂ Respells entries other) :
    checkKeys other = checkKeys entries := by
  rw [checkKeys, checkKeys, UnknownKeys.ofEntries, UnknownKeys.ofEntries, UnknownKeys.keysOutside,
    UnknownKeys.keysOutside, map_fst_respelled respelled]

theorem ofEntries_respelled (respelled : List.Forall₂ Respells entries other) :
    ofEntries other = ofEntries entries := by
  have whole {key : String} (member : key ∈ integerKeys) (default : Int) :
      setting other key default Value.toInteger = setting entries key default Value.toInteger :=
    setting_respelled respelled default fun _ _ respells => respells.toInteger_eq member
  have optional {key : String} (member : key ∈ integerKeys) (default : Option Int) :
      setting other key default Value.toInteger? = setting entries key default Value.toInteger? :=
    setting_respelled respelled default fun _ _ respells => respells.toInteger?_eq member
  have flag {key : String} (member : key ∈ flagKeys) (default : Bool) :
      setting other key default Value.toBoolean = setting entries key default Value.toBoolean :=
    setting_respelled respelled default fun _ _ respells => respells.toBoolean_eq member
  rw [ofEntries, ofEntries, whole (by decide), optional (by decide), whole (by decide),
    optional (by decide), flag (by decide), flag (by decide), flag (by decide),
    checkKeys_respelled respelled]

end Respelled

/-- A mapping with some integers given as decimals and some truth values given as words is loaded as
before, and where it is refused, it is refused for the same. -/
theorem load_respelled (parser : Parser) (directory : Directory) {entries other : Entries}
    (respelled : List.Forall₂ Respells entries other) :
    load parser directory (.mapping other) = load parser directory (.mapping entries) ∧
      (entries.TextKeys → Complains (load parser directory (.mapping other))) := by
  have same : ofEntries other = ofEntries entries := ofEntries_respelled respelled
  refine ⟨same, fun textKeys => ?_⟩
  show Complains (ofEntries other)
  rw [same]
  exact complains_ofEntries textKeys

/-- A tick limit with an underscore, a pause below zero, and a word in mixed case. The pause is
refused, as it is when it is given as an integer. -/
theorem load_respelled_at_negative_pause :
    let given : Entries :=
      [(.text "tick_limit", .integer 1234), (.text "pause_tick", .integer (-7)),
        (.text "lenient_log", .boolean true), (.text "load_font", .boolean false)]
    let spelled : Entries :=
      [(.text "tick_limit", .text " +1_234\n"), (.text "pause_tick", .text "-7"),
        (.text "lenient_log", .text "\tyES"), (.text "load_font", .text " ")]
    load Yaml.parse (fun _ => .missing) (.mapping spelled) =
        load Yaml.parse (fun _ => .missing) (.mapping given) ∧
      load Yaml.parse (fun _ => .missing) (.mapping spelled) = .error .pauseTickNegative := by
  intro given spelled
  have limit : Text.SpellsInteger 1234 " +1_234\n".toList :=
    @Text.SpellsInteger.padded 1234 [' '] ['+'] "1_234".toList ['\n']
      (Text.forall_mem_of_all (by decide)) (.inr ⟨.inr rfl, by decide⟩)
      (.underscore (.next (.next (.last '4')))) (Text.forall_mem_of_all (by decide))
  have pause : Text.SpellsInteger (-7) "-7".toList :=
    @Text.SpellsInteger.padded (-7) [] ['-'] ['7'] [] nofun (.inl ⟨rfl, by decide⟩) (.last '7')
      nofun
  have quiet : Text.SpellsWord trueWords "\tyES".toList :=
    @Text.SpellsWord.padded trueWords ['\t'] "yES".toList [] "yes" (by decide)
      (Text.forall_mem_of_all (by decide))
      (.cons (.inl rfl) (.cons (.inr rfl) (.cons (.inr rfl) .nil))) nofun
  have font : Text.SpellsWord falseWords " ".toList :=
    @Text.SpellsWord.padded falseWords [' '] [] [] "" (by decide)
      (Text.forall_mem_of_all (by decide)) .nil nofun
  have respelled : List.Forall₂ Respells given spelled :=
    .cons (.integer (by decide) (by decide) limit) (.cons (.integer (by decide) (by decide) pause)
      (.cons (.flag (by decide) quiet) (.cons (.flag (by decide) font) .nil)))
  have same := (load_respelled Yaml.parse (fun _ => .missing) respelled).1
  exact ⟨same, same.trans rfl⟩

end Config

end Chip8
