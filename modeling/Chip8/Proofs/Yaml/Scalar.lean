/-
# Scalars that are written plainly

An integer is written in decimals with a minus if it is negative, a truth value as `true` or
`false`, and nothing as `null`. None of these texts means anything else: decimals without a leading
zero are neither octal nor in base sixty, they have no point, and no other word starts with a digit
or a minus.
-/

import Chip8.Proofs.Text.Decimal
import Chip8.Text.Numeral
import Chip8.Yaml.Scalar
import Mathlib.Data.List.TakeWhile

namespace Chip8.Yaml

open Text

/-! ## Integers -/

/-- An integer in decimals. -/
def integerText (number : Int) : List Char :=
  Numeral.sign number ++ Nat.toDigits 10 number.natAbs

theorem mem_of_mem_integerText {number : Int} {character : Char}
    (member : character ∈ integerText number) : character ∈ '-' :: decimals := by
  rw [integerText, Numeral.sign, List.mem_append] at member
  rcases member with sign | digit
  · split at sign
    · exact List.mem_singleton.mp sign ▸ List.mem_cons_self
    · cases sign
  · exact List.mem_cons_of_mem _ (mem_decimals_of_mem_toDigits digit)

/-- The decimals of a number other than zero do not start with zero. -/
theorem head?_toDigits_ne {number : Nat} (nonzero : number ≠ 0) :
    (Nat.toDigits 10 number).head? ≠ some '0' := by
  induction number using Nat.strongRecOn with
  | ind number ih =>
    rcases Nat.lt_or_ge number 10 with small | large
    · rw [Nat.toDigits_of_lt_base small]
      interval_cases number
      · exact absurd rfl nonzero
      all_goals decide
    · have smaller : number / 10 < number := Nat.div_lt_self (by omega) (by decide)
      rw [Nat.toDigits_of_base_le (by decide) large,
        List.head?_append_of_ne_nil _ Nat.toDigits_ne_nil]
      exact ih (number / 10) smaller (by omega)

theorem exists_cons_toDigits (number : Nat) :
    ∃ first rest, Nat.toDigits 10 number = first :: rest ∧ first ∈ decimals := by
  cases shape : Nat.toDigits 10 number with
  | nil => exact absurd shape Nat.toDigits_ne_nil
  | cons first rest =>
    exact ⟨first, rest, rfl, mem_decimals_of_mem_toDigits (shape ▸ List.mem_cons_self)⟩

/-- What starts with a digit other than zero can only be decimal. -/
theorem magnitude_of_nonzero {digit : Char} (member : digit ∈ decimals) (nonzero : digit ≠ '0')
    (rest : List Char) : magnitude (digit :: rest) =
      if isDecimalRun (digit :: rest) then decimalNumber (digit :: rest)
      else sexagesimal (digit :: rest) := by
  simp only [decimals, List.mem_cons, List.not_mem_nil, or_false] at member
  rcases member with rfl | rfl | rfl | rfl | rfl | rfl | rfl | rfl | rfl | rfl
  · exact absurd rfl nonzero
  all_goals rfl

theorem isDecimalRun_toDigits (number : Nat) : isDecimalRun (Nat.toDigits 10 number) = true := by
  have ordinary : ∀ digit ∈ decimals, digit.isDigit = true ∧ isDigitBelow 10 digit = true :=
    forall_mem_of_all (by decide)
  obtain ⟨first, rest, shape, digit⟩ := exists_cons_toDigits number
  rw [shape, isDecimalRun, (ordinary first digit).1, Bool.true_and, List.all_eq_true]
  intro character member
  refine (ordinary character (@mem_decimals_of_mem_toDigits number character ?_)).2
  rw [shape]
  exact List.mem_cons_of_mem first member

theorem decimalNumber_toDigits {number : Nat}
    (few : (Nat.toDigits 10 number).length ≤ digitLimit) :
    decimalNumber (Nat.toDigits 10 number) = .value number := by
  have value : numberOf 10 (Nat.toDigits 10 number) = number :=
    ofDigits_toDigits (forall_mem_of_all (by decide)) number
  have shorter := (List.length_filter_le (· != '_') (Nat.toDigits 10 number)).trans few
  rw [decimalNumber, if_neg (Nat.not_lt.mpr shorter), value]

theorem magnitude_toDigits {number : Nat} (few : (Nat.toDigits 10 number).length ≤ digitLimit) :
    magnitude (Nat.toDigits 10 number) = .value number := by
  by_cases zero : number = 0
  · subst zero
    rfl
  · obtain ⟨first, rest, shape, digit⟩ := exists_cons_toDigits number
    have nonzero := head?_toDigits_ne zero
    rw [shape] at nonzero
    have run := isDecimalRun_toDigits number
    have decimal := decimalNumber_toDigits few
    rw [shape] at run decimal ⊢
    rw [magnitude_of_nonzero digit fun same => nonzero (congrArg some same), if_pos run, decimal]

theorem splitSign_integerText (number : Int) :
    splitSign (integerText number) = (decide (number < 0), Nat.toDigits 10 number.natAbs) := by
  rw [integerText, Numeral.sign]
  by_cases negative : number < 0
  · rw [if_pos negative, decide_eq_true negative]
    rfl
  · obtain ⟨first, rest, shape, digit⟩ := exists_cons_toDigits number.natAbs
    rw [if_neg negative, decide_eq_false negative, shape]
    exact splitSign_of_digit digit rest

theorem integer_integerText {number : Int}
    (few : (Nat.toDigits 10 number.natAbs).length ≤ digitLimit) :
    integer (integerText number) = .value number := by
  rw [integer, splitSign_integerText]
  simp only [magnitude_toDigits few, signed_natAbs]

/-- A number is not read where there is no point. -/
theorem realWithSign_toDigits (signed negative : Bool) (number : Nat) :
    realWithSign signed negative (Nat.toDigits 10 number) = none := by
  have whole : (Nat.toDigits 10 number).takeWhile (fun c => c.isDigit || c == '_' || c == ':') =
      Nat.toDigits 10 number := by
    rw [List.takeWhile_eq_self_iff]
    intro character member
    rw [Nat.isDigit_of_mem_toDigits (by decide) (by decide) member]
    rfl
  rw [realWithSign, whole]
  simp only [List.drop_length]

/-- What starts with a digit or a minus is none of the words that start with neither. -/
theorem ofList_not_mem {text : List Char} {words : List String}
    (starts : ∃ first ∈ '-' :: decimals, text.head? = some first)
    (others : (words.all fun word => ('-' :: decimals).all fun first =>
      word.toList.head? != some first) = true) :
    String.ofList text ∉ words := by
  simp only [List.all_eq_true, bne_iff_ne] at others
  intro member
  obtain ⟨first, inside, head⟩ := starts
  refine others _ member first inside ?_
  rw [String.toList_ofList]
  exact head

theorem starts_toDigits (number : Nat) :
    ∃ first ∈ '-' :: decimals, (Nat.toDigits 10 number).head? = some first := by
  obtain ⟨first, rest, shape, digit⟩ := exists_cons_toDigits number
  rw [shape]
  exact ⟨first, List.mem_cons_of_mem _ digit, rfl⟩

theorem starts_integerText (number : Int) :
    ∃ first ∈ '-' :: decimals, (integerText number).head? = some first := by
  rw [integerText, Numeral.sign]
  by_cases negative : number < 0
  · rw [if_pos negative]
    exact ⟨'-', List.mem_cons_self, rfl⟩
  · rw [if_neg negative]
    exact starts_toDigits number.natAbs

theorem real?_integerText (number : Int) : real? (integerText number) = none := by
  have infinite : String.ofList (Nat.toDigits 10 number.natAbs) ∉ [".inf", ".Inf", ".INF"] :=
    ofList_not_mem (starts_toDigits number.natAbs) (by decide)
  have notANumber : String.ofList (integerText number) ∉ [".nan", ".NaN", ".NAN"] :=
    ofList_not_mem (starts_integerText number) (by decide)
  rw [real?, splitSign_integerText]
  simp only [if_neg infinite, if_neg notANumber, realWithSign_toDigits]

/-- An integer in decimals means that integer. -/
theorem resolve_integerText {number : Int} (isKey : Bool)
    (few : (Nat.toDigits 10 number.natAbs).length ≤ digitLimit) :
    resolve isKey (integerText number) = some (.integer number) := by
  have starts := starts_integerText number
  have nothing : String.ofList (integerText number) ∉ nullWords := ofList_not_mem starts (by decide)
  have yes : String.ofList (integerText number) ∉ trueWords := ofList_not_mem starts (by decide)
  have no : String.ofList (integerText number) ∉ falseWords := ofList_not_mem starts (by decide)
  have marks : String.ofList (integerText number) ∉ ["<<", "="] := ofList_not_mem starts (by decide)
  simp only [List.mem_cons, List.not_mem_nil, or_false, not_or] at marks
  rw [resolve]
  simp only [if_neg nothing, if_neg yes, if_neg no, marks.1, marks.2, false_and, or_self,
    ↓reduceIte, real?_integerText, integer_integerText few]

/-! ## Scalars -/

/-- A scalar is written plainly. -/
inductive WritesScalar : Value → List Char → Prop
  | integer {number : Int} (few : (Nat.toDigits 10 number.natAbs).length ≤ digitLimit) :
    WritesScalar (.integer number) (integerText number)
  | boolean (flag : Bool) : WritesScalar (.boolean flag) (if flag then "true" else "false").toList
  | null : WritesScalar .null "null".toList

theorem WritesScalar.resolve_eq {value : Value} {text : List Char}
    (writes : WritesScalar value text) : resolve false text = some value := by
  cases writes with
  | integer few => exact resolve_integerText false few
  | boolean flag =>
    cases flag with
    | _ => rfl
  | null => rfl

end Chip8.Yaml
