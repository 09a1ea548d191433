/-
# Reading back what is written in decimals

The decimal digits of a number are read as that number. They still are if single underscores stand
between them, a plus or a minus in front, and white space around all of it: reading takes such a
text apart in the order in which it was put together. A number with too many digits has no such text
that can be read, so the digits have to be few.
-/

import Chip8.Text.Integer
import Mathlib.Data.List.Basic
import Mathlib.Tactic.IntervalCases

namespace Chip8.Text

/-- A text is split behind all characters of a class where they end. -/
theorem span_exact {p : Char → Bool} {body rest : List Char}
    (inside : ∀ character ∈ body, p character = true)
    (outside : ∀ character ∈ rest.head?, p character = false) :
    (body ++ rest).takeWhile p = body ∧ (body ++ rest).dropWhile p = rest := by
  rw [List.takeWhile_append_of_pos inside, List.dropWhile_append_of_pos inside]
  cases rest with
  | nil => exact ⟨List.append_nil body, rfl⟩
  | cons first more =>
    have stops := Bool.eq_false_iff.mp (outside first rfl)
    rw [List.takeWhile_cons_of_neg stops, List.dropWhile_cons_of_neg stops]
    exact ⟨List.append_nil body, rfl⟩

/-- Of the characters in a list, a property is decided one by one. -/
theorem forall_mem_of_all {p : Char → Prop} [DecidablePred p] {characters : List Char}
    (all : (characters.all fun character => decide (p character)) = true) :
    ∀ character ∈ characters, p character :=
  fun character member => of_decide_eq_true (List.all_eq_true.mp all character member)

/-- Texts put together with a separator have its characters and their own. -/
theorem mem_intercalate {separator : List Char} {texts : List (List Char)} {character : Char}
    (member : character ∈ separator.intercalate texts) :
    character ∈ separator ∨ ∃ text ∈ texts, character ∈ text := by
  induction texts with
  | nil => cases member
  | cons text texts ih =>
    cases texts with
    | nil =>
      rw [List.intercalate_singleton] at member
      exact .inr ⟨text, List.mem_cons_self, member⟩
    | cons next texts =>
      rw [List.intercalate_cons_cons, List.mem_append, List.mem_append] at member
      rcases member with (here | between) | later
      · exact .inr ⟨text, List.mem_cons_self, here⟩
      · exact .inl between
      · exact (ih later).imp_right fun ⟨text, listed, inside⟩ =>
          ⟨text, List.mem_cons_of_mem _ listed, inside⟩

/-! ## Digits -/

/-- The decimal digits. -/
def decimals : List Char := ['0', '1', '2', '3', '4', '5', '6', '7', '8', '9']

/-- What holds of ten digits holds of every one. -/
theorem mem_decimals {digit : Char} (isDigit : digit.isDigit = true) : digit ∈ decimals := by
  simp only [Char.isDigit, Bool.and_eq_true, decide_eq_true_eq, UInt32.le_iff_toNat_le,
    ge_iff_le] at isDigit
  obtain ⟨low, high⟩ := isDigit
  change 48 ≤ digit.toNat at low
  change digit.toNat ≤ 57 at high
  rw [← Char.ofNat_toNat digit]
  generalize digit.toNat = point at low high
  interval_cases point
  all_goals decide

theorem mem_decimals_of_mem_toDigits {number : Nat} {digit : Char}
    (member : digit ∈ Nat.toDigits 10 number) : digit ∈ decimals :=
  mem_decimals (Nat.isDigit_of_mem_toDigits (by decide) (by decide) member)

/-- Wherever each digit is given its value, a number is read back from its digits. -/
theorem ofDigits_toDigits {value? : Char → Option Nat}
    (valued : ∀ digit ∈ decimals, value? digit = some (digit.toNat - '0'.toNat)) (number : Nat) :
    ofDigits 10 ((Nat.toDigits 10 number).filterMap value?) = number := by
  have values : (Nat.toDigits 10 number).filterMap value? =
      (Nat.toDigits 10 number).map fun digit => digit.toNat - '0'.toNat := by
    rw [List.filterMap_congr fun digit member => valued digit (mem_decimals_of_mem_toDigits member)]
    exact congrFun List.filterMap_eq_map _
  rw [values, ofDigits, List.foldl_map]
  exact Nat.ofDigitChars_ten_toDigits

/-! ## Runs of digits -/

theorem underscoresSeparate_cons {digit : Char} {rest : List Char} (apart : digit ≠ '_') :
    underscoresSeparate (digit :: rest) = underscoresSeparate rest :=
  underscoresSeparate.eq_4 digit rest (fun same => absurd same apart)
    fun _ same => absurd same apart

theorem underscoresSeparate_underscore {run : List Char} (more : run ≠ [])
    (alone : run.head? ≠ some '_') :
    underscoresSeparate ('_' :: run) = underscoresSeparate run :=
  underscoresSeparate.eq_4 '_' run (fun _ => more) fun _ _ same => alone (same ▸ rfl)

/-- A run is these digits, with an underscore between some of them. -/
inductive Separates : List Char → List Char → Prop
  | last (digit : Char) : Separates [digit] [digit]
  | next {digit : Char} {digits run : List Char} (more : Separates digits run) :
    Separates (digit :: digits) (digit :: run)
  | underscore {digit : Char} {digits run : List Char} (more : Separates digits run) :
    Separates (digit :: digits) (digit :: '_' :: run)

namespace Separates

variable {digits run : List Char} (separates : Separates digits run)

include separates

theorem head?_eq : run.head? = digits.head? := by
  cases separates with
  | last | next | underscore => rfl

theorem mem_or_eq {character : Char} (member : character ∈ run) :
    character ∈ digits ∨ character = '_' := by
  induction separates with
  | last => exact .inl member
  | next _ ih =>
    rcases List.mem_cons.mp member with rfl | later
    · exact .inl List.mem_cons_self
    · exact (ih later).imp_left (List.mem_cons_of_mem _)
  | underscore _ ih =>
    rcases List.mem_cons.mp member with rfl | later
    · exact .inl List.mem_cons_self
    · rcases List.mem_cons.mp later with rfl | later
      · exact .inr rfl
      · exact (ih later).imp_left (List.mem_cons_of_mem _)

/-- What is not given a value to the underscore finds the digits alone. -/
theorem filterMap_eq {value? : Char → Option Nat} (nothing : value? '_' = none) :
    run.filterMap value? = digits.filterMap value? := by
  induction separates with
  | last => rfl
  | next _ ih => rw [List.filterMap_cons, List.filterMap_cons, ih]
  | underscore _ ih =>
    rw [List.filterMap_cons, List.filterMap_cons, List.filterMap_cons, nothing, ih]

theorem ne_nil : run ≠ [] := by
  cases separates with
  | last | next | underscore => exact List.cons_ne_nil _ _

theorem underscoresSeparate (apart : '_' ∉ digits) : underscoresSeparate run = true := by
  induction separates with
  | last digit => rw [underscoresSeparate_cons (List.ne_of_not_mem_cons apart).symm]; rfl
  | @next digit digits run more ih =>
    rw [underscoresSeparate_cons (List.ne_of_not_mem_cons apart).symm]
    exact ih (List.not_mem_of_not_mem_cons apart)
  | @underscore digit digits run more ih =>
    have later := List.not_mem_of_not_mem_cons apart
    have alone : run.head? ≠ some '_' := by
      rw [more.head?_eq]
      exact fun first => later (List.mem_of_head? first)
    rw [underscoresSeparate_cons (List.ne_of_not_mem_cons apart).symm,
      underscoresSeparate_underscore more.ne_nil alone]
    exact ih later

end Separates

/-! ## Integers -/

/-- A sign of a number. A plus may be left out. -/
def Signs (number : Int) (sign : List Char) : Prop :=
  sign = ['-'] ∧ number < 0 ∨ (sign = [] ∨ sign = ['+']) ∧ 0 ≤ number

/-- A text is an integer in decimals: with single underscores between digits or none, with a sign
where there must or may be one, and with white space around. -/
inductive SpellsInteger (number : Int) : List Char → Prop
  | padded {before sign run after : List Char}
    (blank_before : ∀ character ∈ before, isPlainBlank character = true)
    (signed : Signs number sign)
    (separates : Separates (Nat.toDigits 10 number.natAbs) run)
    (blank_after : ∀ character ∈ after, isPlainBlank character = true) :
    SpellsInteger number (before ++ (sign ++ (run ++ after)))

theorem dropBaseMark_ten (text : List Char) : dropBaseMark .ten text = text := by
  cases text with
  | _ => rfl

theorem splitSign_of_digit {digit : Char} (member : digit ∈ decimals) (rest : List Char) :
    splitSign (digit :: rest) = (false, digit :: rest) := by
  simp only [decimals, List.mem_cons, List.not_mem_nil, or_false] at member
  rcases member with rfl | rfl | rfl | rfl | rfl | rfl | rfl | rfl | rfl | rfl
  all_goals rfl

theorem not_isNumberBlank_of_mem {character : Char}
    (member : character ∈ '+' :: '-' :: decimals) : isNumberBlank character = false := by
  have solid : ∀ character ∈ '+' :: '-' :: decimals, isNumberBlank character = false :=
    forall_mem_of_all (by decide)
  exact solid character member

/-- The plain blanks. -/
def plainBlanks : List Char := [' ', '\t', '\n', '\x0b', '\x0c', '\r']

theorem mem_plainBlanks {character : Char} (blank : isPlainBlank character = true) :
    character ∈ plainBlanks := by
  rw [isPlainBlank, Bool.or_eq_true, beq_iff_eq, Bool.and_eq_true, decide_eq_true_eq,
    decide_eq_true_eq] at blank
  rcases blank with rfl | ⟨low, high⟩
  · decide
  · rw [← Char.ofNat_toNat character]
    generalize character.toNat = point at low high
    interval_cases point
    all_goals decide

theorem not_isDigitOrUnderscore_of_isPlainBlank {character : Char}
    (blank : isPlainBlank character = true) :
    Base.ten.isDigitOrUnderscore character = false := by
  have outside : ∀ character ∈ plainBlanks, Base.ten.isDigitOrUnderscore character = false :=
    forall_mem_of_all (by decide)
  exact outside character (mem_plainBlanks blank)

section Spelled

variable {number : Int} {sign run after : List Char}

/-- A run of digits starts with a digit. -/
theorem Separates.exists_cons (separates : Separates (Nat.toDigits 10 number.natAbs) run) :
    ∃ first rest, run = first :: rest ∧ first ∈ decimals := by
  cases shape : run with
  | nil => exact absurd shape separates.ne_nil
  | cons first rest =>
    have head := separates.head?_eq
    rw [shape] at head
    exact ⟨first, rest, rfl, mem_decimals_of_mem_toDigits (List.mem_of_head? head.symm)⟩

/-- A sign is split off where the text was put together with it. -/
theorem splitSign_append (signed : Signs number sign)
    (separates : Separates (Nat.toDigits 10 number.natAbs) run) :
    splitSign (sign ++ (run ++ after)) = (decide (number < 0), run ++ after) := by
  rcases signed with ⟨rfl, negative⟩ | ⟨rfl | rfl, nonneg⟩
  · rw [decide_eq_true negative]
    rfl
  · obtain ⟨first, rest, rfl, digit⟩ := separates.exists_cons
    rw [decide_eq_false (Int.not_lt.mpr nonneg)]
    exact splitSign_of_digit digit (rest ++ after)
  · rw [decide_eq_false (Int.not_lt.mpr nonneg)]
    rfl

/-- A number starts with its sign or a digit. -/
theorem head?_append (signed : Signs number sign)
    (separates : Separates (Nat.toDigits 10 number.natAbs) run) :
    ∃ first ∈ '+' :: '-' :: decimals, (sign ++ (run ++ after)).head? = some first := by
  obtain ⟨first, rest, rfl, digit⟩ := separates.exists_cons
  rcases signed with ⟨rfl, _⟩ | ⟨rfl | rfl, _⟩
  · exact ⟨'-', by decide, rfl⟩
  · exact ⟨first, List.mem_cons_of_mem '+' (List.mem_cons_of_mem '-' digit), rfl⟩
  · exact ⟨'+', by decide, rfl⟩

theorem isDigitOrUnderscore_of_mem (separates : Separates (Nat.toDigits 10 number.natAbs) run)
    {character : Char} (member : character ∈ run) :
    Base.ten.isDigitOrUnderscore character = true := by
  have all : ∀ character ∈ '_' :: decimals, Base.ten.isDigitOrUnderscore character = true :=
    forall_mem_of_all (by decide)
  rcases separates.mem_or_eq member with digit | rfl
  · exact all character (List.mem_cons_of_mem _ (mem_decimals_of_mem_toDigits digit))
  · exact all _ List.mem_cons_self

end Spelled

/-- A number is its size with its sign. -/
theorem signed_natAbs (number : Int) :
    (if decide (number < 0) = true then -(number.natAbs : Int) else number.natAbs) = number := by
  simp only [decide_eq_true_eq]
  omega

/-- The number is read. -/
theorem readInteger_of_spells {number : Int} {text : List Char} (spells : SpellsInteger number text)
    (few : (Nat.toDigits 10 number.natAbs).length ≤ digitLimit) :
    readInteger .ten text = .ok number := by
  obtain @⟨before, sign, run, after, blank_before, signed, separates, blank_after⟩ := spells
  have dropped : (before ++ (sign ++ (run ++ after))).dropWhile isNumberBlank =
      sign ++ (run ++ after) := by
    obtain ⟨first, solid, head⟩ := @head?_append number sign run after signed separates
    refine (span_exact (fun character member => Bool.or_eq_true_iff.mpr
      (.inl (blank_before character member))) ?_).2
    rw [head]
    rintro _ ⟨⟩
    exact not_isNumberBlank_of_mem solid
  obtain ⟨taken, left⟩ := @span_exact Base.ten.isDigitOrUnderscore run after
    (fun _ => isDigitOrUnderscore_of_mem separates) fun character first =>
      not_isDigitOrUnderscore_of_isPlainBlank (blank_after character (List.mem_of_head? first))
  have digits : Base.ten.digits run = (Nat.toDigits 10 number.natAbs).filterMap Base.ten.digit? :=
    separates.filterMap_eq (by decide)
  have valued : ∀ digit ∈ decimals, Base.ten.digit? digit = some (digit.toNat - '0'.toNat) :=
    forall_mem_of_all (by decide)
  have length : (Base.ten.digits run).length = (Nat.toDigits 10 number.natAbs).length := by
    rw [digits, List.filterMap_length_eq_length]
    exact fun digit member =>
      Option.isSome_iff_exists.mpr ⟨_, valued digit (mem_decimals_of_mem_toDigits member)⟩
  have value : ofDigits 10 (Base.ten.digits run) = number.natAbs := by
    rw [digits]
    exact ofDigits_toDigits valued number.natAbs
  have underscoreless : '_' ∉ Nat.toDigits 10 number.natAbs := Nat.underscore_not_in_toDigits
  have apart := separates.underscoresSeparate underscoreless
  have starts : run.head? ≠ some '_' := by
    rw [separates.head?_eq]
    exact fun first => underscoreless (List.mem_of_head? first)
  have blank : after.all isNumberBlank = true :=
    List.all_eq_true.mpr fun character member =>
      Bool.or_eq_true_iff.mpr (.inl (blank_after character member))
  rw [readInteger, dropped, splitSign_append signed separates]
  simp only [dropBaseMark_ten, taken, left, starts, apart, blank, length, Nat.not_lt.mpr few,
    separates.ne_nil, false_or, and_false, ↓reduceIte, Bool.true_eq_false, Base.size, value]
  rw [signed_natAbs]

end Chip8.Text
