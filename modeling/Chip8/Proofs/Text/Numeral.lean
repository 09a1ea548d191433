/-
# Numbers written to a fixed width

A number that has no more hexadecimal digits than the width asks for is written in
exactly that many digits, one for each place. So a word written to width four is
its four nibbles.
-/

import Chip8.Text.Numeral
import Mathlib.Algebra.Group.Nat.Even

namespace Chip8.Numeral

/-- One upper-case hexadecimal digit. -/
def hexDigit (digit : Nat) : Char :=
  digit.digitChar.toUpper

/-- The last so many hexadecimal digits of a number, zeros included. -/
def lastDigits : Nat → Nat → List Char
  | 0, _ => []
  | width + 1, value => lastDigits width (value / 16) ++ [hexDigit (value % 16)]

theorem lastDigits_zero (width : Nat) : lastDigits width 0 = List.replicate width '0' := by
  induction width with
  | zero => rfl
  | succ width ih =>
    rw [lastDigits, Nat.zero_div, ih, List.replicate_succ']
    rfl

theorem padLeft_append_singleton (width : Nat) (fill last : Char) (text : List Char) :
    padLeft (width + 1) fill (text ++ [last]) = padLeft width fill text ++ [last] := by
  rw [padLeft, padLeft, List.length_append, List.length_singleton, Nat.add_sub_add_right,
    List.append_assoc]

theorem hexDigits_of_lt {value : Nat} (small : value < 16) :
    hexDigits value = [hexDigit value] := by
  rw [hexDigits, Nat.toDigits_of_lt_base small]
  rfl

theorem hexDigits_of_le {value : Nat} (large : 16 ≤ value) :
    hexDigits value = hexDigits (value / 16) ++ [hexDigit (value % 16)] := by
  rw [hexDigits, Nat.toDigits_of_base_le (by decide) large, List.map_append]
  rfl

theorem padLeft_hexDigits (width : Nat) {value : Nat} (fits : value < 16 ^ (width + 1)) :
    padLeft (width + 1) '0' (hexDigits value) = lastDigits (width + 1) value := by
  induction width generalizing value with
  | zero =>
    have small : value < 16 := fits
    rw [hexDigits_of_lt small, lastDigits, Nat.mod_eq_of_lt small]
    rfl
  | succ width ih =>
    rcases Nat.lt_or_ge value 16 with small | large
    · have alone : hexDigits value = [] ++ [hexDigit value] := hexDigits_of_lt small
      rw [alone, padLeft_append_singleton, lastDigits, Nat.div_eq_of_lt small,
        Nat.mod_eq_of_lt small, lastDigits_zero, padLeft, List.append_nil, List.length_nil,
        Nat.sub_zero]
    · have fewer : value / 16 < 16 ^ (width + 1) := by
        rw [Nat.div_lt_iff_lt_mul (by decide)]
        exact fits
      rw [hexDigits_of_le large, padLeft_append_singleton, ih fewer]
      rfl

theorem hex_of_lt (width : Nat) {value : Nat} (fits : value < 16 ^ (width + 1)) :
    hex (width + 1) value = String.ofList (lastDigits (width + 1) value) := by
  have unsigned : sign value = [] := if_neg (Int.not_lt.mpr (Int.natCast_nonneg value))
  rw [hex, unsigned, ← padLeft_hexDigits width fits]
  rfl

end Chip8.Numeral
