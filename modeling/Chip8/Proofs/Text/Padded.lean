/-
# Reading back what is written to a width

Padding stands in front of a number and is of a kind that does not count: zeros in front of
hexadecimal digits, blanks in front of a sign. So a number is read back from its text whatever the
width was, also where it needs more room than that, and texts of one width tell numbers apart.

Texts that are put behind each other are told apart if each ends where the next begins. In a line
whose fields are separated by tags, it is enough that a tag has a letter which the field in front of
it cannot have.
-/

import Chip8.Proofs.Text.Numeral
import Chip8.Proofs.Yaml.Scalar

namespace Chip8

open Text Yaml

namespace Numeral

theorem eq_or_mem_of_mem_padLeft {width : Nat} {fill character : Char} {text : List Char}
    (member : character ∈ padLeft width fill text) : character = fill ∨ character ∈ text := by
  rw [padLeft, List.mem_append] at member
  exact member.imp_left List.eq_of_mem_replicate

/-! ## Hexadecimal digits -/

/-- The digits that numbers are written with in base sixteen. -/
def hexadecimals : List Char :=
  decimals ++ ['A', 'B', 'C', 'D', 'E', 'F']

theorem hexDigit_spec : ∀ digit < 16,
    hexDigit digit ∈ hexadecimals ∧ Base.sixteen.digit? (hexDigit digit) = some digit := by
  decide

theorem mem_hexadecimals_of_mem_hexDigits {value : Nat} {character : Char}
    (member : character ∈ hexDigits value) : character ∈ hexadecimals := by
  induction value using Nat.strongRecOn with
  | ind value ih =>
    rcases Nat.lt_or_ge value 16 with small | large
    · rw [hexDigits_of_lt small, List.mem_singleton] at member
      exact member ▸ (hexDigit_spec value small).1
    · rw [hexDigits_of_le large, List.mem_append, List.mem_singleton] at member
      rcases member with front | rfl
      · exact ih (value / 16) (Nat.div_lt_self (by omega) (by decide)) front
      · exact (hexDigit_spec (value % 16) (Nat.mod_lt value (by decide))).1

/-- The number that hexadecimal digits stand for. -/
def readHex (text : List Char) : Nat :=
  ofDigits 16 (Base.sixteen.digits text)

theorem readHex_append_singleton (text : List Char) {digit : Nat} (small : digit < 16) :
    readHex (text ++ [hexDigit digit]) = 16 * readHex text + digit := by
  have last : Base.sixteen.digits [hexDigit digit] = [digit] := by
    rw [Base.digits, List.filterMap_cons, (hexDigit_spec digit small).2]
    rfl
  have split : Base.sixteen.digits (text ++ [hexDigit digit]) =
      Base.sixteen.digits text ++ [digit] := by
    rw [← last]
    exact List.filterMap_append
  rw [readHex, split, ofDigits, List.foldl_append]
  rfl

theorem readHex_hexDigits (value : Nat) : readHex (hexDigits value) = value := by
  induction value using Nat.strongRecOn with
  | ind value ih =>
    rcases Nat.lt_or_ge value 16 with small | large
    · have alone : hexDigits value = [] ++ [hexDigit value] := hexDigits_of_lt small
      rw [alone, readHex_append_singleton [] small]
      exact Nat.zero_add value
    · have smaller : value / 16 < value := Nat.div_lt_self (by omega) (by decide)
      rw [hexDigits_of_le large, readHex_append_singleton _ (Nat.mod_lt value (by decide)),
        ih (value / 16) smaller, Nat.div_add_mod]

/-- Zeros in front do not count. -/
theorem readHex_padLeft (width : Nat) (text : List Char) :
    readHex (padLeft width '0' text) = readHex text := by
  rw [padLeft]
  induction width - text.length with
  | zero => rfl
  | succ count ih => rw [← ih]; rfl

theorem toList_hex (width value : Nat) :
    (hex width value).toList = padLeft width '0' (hexDigits value) := by
  have unsigned : sign (value : Int) = [] := if_neg (Int.not_lt.mpr (Int.natCast_nonneg value))
  rw [hex, unsigned, String.toList_ofList]
  rfl

theorem hex_inj {width left right : Nat} : hex width left = hex width right ↔ left = right := by
  constructor
  · intro same
    have read := congrArg (fun text => readHex text.toList) same
    simp only [toList_hex, readHex_padLeft, readHex_hexDigits] at read
    exact read
  · rintro rfl
    rfl

theorem mem_of_mem_hex {width : Nat} {value : Int} {character : Char}
    (member : character ∈ (hex width value).toList) : character ∈ '-' :: hexadecimals := by
  simp only [hex, String.toList_ofList, List.mem_append] at member
  rcases member with minus | padded
  · rw [sign] at minus
    split at minus
    · exact List.mem_singleton.mp minus ▸ List.mem_cons_self
    · cases minus
  · apply List.mem_cons_of_mem
    rcases eq_or_mem_of_mem_padLeft padded with rfl | digit
    · decide
    · exact mem_hexadecimals_of_mem_hexDigits digit

theorem notMem_hex {width : Nat} {value : Int} {letter : Char}
    (foreign : letter ∉ '-' :: hexadecimals) : letter ∉ (hex width value).toList :=
  mt mem_of_mem_hex foreign

/-! ## Decimals -/

/-- The integer that decimals behind a sign and blanks stand for. -/
def readDecimal (text : List Char) : Int :=
  let (negative, digits) := splitSign (text.dropWhile (· == ' '))
  let size := ofDigits 10 (Base.ten.digits digits)
  if negative then -size else size

theorem toList_decimal (width : Nat) (value : Int) :
    (decimal width value).toList = padLeft width ' ' (integerText value) := by
  rw [decimal, String.toList_ofList]
  rfl

theorem mem_of_mem_decimal {width : Nat} {value : Int} {character : Char}
    (member : character ∈ (decimal width value).toList) :
    character ∈ ' ' :: '-' :: decimals := by
  rw [toList_decimal] at member
  rcases eq_or_mem_of_mem_padLeft member with rfl | text
  · exact List.mem_cons_self
  · exact List.mem_cons_of_mem ' ' (mem_of_mem_integerText text)

theorem notMem_decimal {width : Nat} {value : Int} {letter : Char}
    (foreign : letter ∉ ' ' :: '-' :: decimals) : letter ∉ (decimal width value).toList :=
  mt mem_of_mem_decimal foreign

theorem readDecimal_decimal (width : Nat) (value : Int) :
    readDecimal (decimal width value).toList = value := by
  have solid : ∀ character ∈ '-' :: decimals, (character == ' ') = false :=
    forall_mem_of_all (by decide)
  have dropped : (decimal width value).toList.dropWhile (· == ' ') = integerText value := by
    rw [toList_decimal, padLeft]
    refine (span_exact ?_ ?_).2
    · intro character blank
      rw [List.eq_of_mem_replicate blank]
      rfl
    · intro first head
      exact solid first (mem_of_mem_integerText (List.mem_of_head? head))
  have size : ofDigits 10 (Base.ten.digits (Nat.toDigits 10 value.natAbs)) = value.natAbs :=
    ofDigits_toDigits (forall_mem_of_all (by decide)) value.natAbs
  rw [readDecimal, dropped, splitSign_integerText]
  simp only [size, signed_natAbs]

theorem decimal_inj {width : Nat} {left right : Int} :
    decimal width left = decimal width right ↔ left = right := by
  constructor
  · intro same
    rw [← readDecimal_decimal width left, same, readDecimal_decimal]
  · rintro rfl
    rfl

end Numeral

/-! ## Fields and tags -/

/-- Texts that end in front of a letter which they do not have are told apart, and so is what
comes behind. -/
theorem append_cons_inj {left right rest more : List Char} {mark : Char} (left_free : mark ∉ left)
    (right_free : mark ∉ right) (same : left ++ mark :: rest = right ++ mark :: more) :
    left = right ∧ rest = more := by
  have cut (text behind : List Char) (free : mark ∉ text) :
      (text ++ mark :: behind).takeWhile (· != mark) = text :=
    (span_exact (fun character member => bne_iff_ne.mpr (ne_of_mem_of_not_mem member free))
      (by rintro _ ⟨⟩; exact bne_self_eq_false mark)).1
  have front : left = right := by
    rw [← cut left rest left_free, same, cut right more right_free]
  subst front
  exact ⟨rfl, List.tail_eq_of_cons_eq (List.append_cancel_left same)⟩

/-- Fields in front of one tag are told apart, and so is what comes behind it, if the tag has a
letter that neither field has. -/
theorem append_tag_inj {left right tag rest more : String} (mark : Char)
    (tagged : mark ∈ tag.toList) (left_free : mark ∉ left.toList)
    (right_free : mark ∉ right.toList)
    (same : left ++ (tag ++ rest) = right ++ (tag ++ more)) : left = right ∧ rest = more := by
  obtain ⟨lead, tail, split, lead_free⟩ := List.eq_append_cons_of_mem tagged
  have texts : (left.toList ++ lead) ++ mark :: (tail ++ rest.toList) =
      (right.toList ++ lead) ++ mark :: (tail ++ more.toList) := by
    have flat := congrArg String.toList same
    simpa only [String.toList_append, split, List.append_assoc, List.cons_append] using flat
  have free {text : List Char} (text_free : mark ∉ text) : mark ∉ text ++ lead :=
    List.not_mem_append text_free lead_free
  obtain ⟨fronts, behind⟩ := append_cons_inj (free left_free) (free right_free) texts
  exact ⟨String.toList_inj.mp (List.append_cancel_right fronts),
    String.toList_inj.mp (List.append_cancel_left behind)⟩

namespace Numeral

variable {width : Nat} {tag rest more : String} (mark : Char) (tagged : mark ∈ tag.toList)

include tagged

theorem hex_append_inj {left right : Nat} (foreign : mark ∉ '-' :: hexadecimals)
    (same : hex width left ++ (tag ++ rest) = hex width right ++ (tag ++ more)) :
    left = right ∧ rest = more :=
  (append_tag_inj mark tagged (notMem_hex foreign) (notMem_hex foreign) same).imp_left hex_inj.mp

theorem decimal_append_inj {left right : Int} (foreign : mark ∉ ' ' :: '-' :: decimals)
    (same : decimal width left ++ (tag ++ rest) = decimal width right ++ (tag ++ more)) :
    left = right ∧ rest = more :=
  (append_tag_inj mark tagged (notMem_decimal foreign) (notMem_decimal foreign) same).imp_left
    decimal_inj.mp

end Numeral

end Chip8
