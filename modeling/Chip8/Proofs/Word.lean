/-
# The digits of a word

A word has four hexadecimal digits, and its fields are made of them. Bitwise operations go
digit by digit, so whatever they do to a word is seen in its digits.
-/

import Chip8.Word
import Mathlib.Algebra.Group.Nat.Defs

namespace Chip8.Word

/-- The hexadecimal digit at a place. The last digit is at place zero. -/
def digit (word : Word) (place : Nat) : Nat :=
  word.toNat / 2 ^ (4 * place) % 2 ^ 4

@[simp] theorem ofInt_zero : ofInt 0 = 0 := rfl

variable (word other : Word) (place : Nat)

theorem digit_or : (word ||| other).digit place = word.digit place ||| other.digit place := by
  rw [digit, UInt16.toNat_or, Nat.or_div_two_pow, Nat.or_mod_two_pow]
  rfl

theorem digit_and : (word &&& other).digit place = word.digit place &&& other.digit place := by
  rw [digit, UInt16.toNat_and, Nat.and_div_two_pow, Nat.and_mod_two_pow]
  rfl

theorem digit_lt : word.digit place < 16 :=
  Nat.mod_lt _ (by decide)

/-- A word is made of its digits. -/
theorem toNat_eq_digits :
    word.toNat = 4096 * word.digit 3 + 256 * word.digit 2 + 16 * word.digit 1 + word.digit 0 := by
  have small := word.toNat_lt
  show word.toNat = 4096 * (word.toNat / 4096 % 16) + 256 * (word.toNat / 256 % 16) +
    16 * (word.toNat / 16 % 16) + word.toNat / 1 % 16
  omega

variable {word other}

/-- Bits below the lowest one of a word find room there. -/
theorem toNat_or_of_lt (bits : Nat) (above : 2 ^ bits ∣ word.toNat)
    (below : other.toNat < 2 ^ bits) : (word ||| other).toNat = word.toNat + other.toNat := by
  obtain ⟨upper, upper_eq⟩ := above
  rw [UInt16.toNat_or, upper_eq, Nat.two_pow_add_eq_or_of_lt below]

/-- Words that nowhere have digits at the same place are laid over each other by adding. -/
theorem toNat_or_of_apart (apart : ∀ place < 4, word.digit place = 0 ∨ other.digit place = 0) :
    (word ||| other).toNat = word.toNat + other.toNat := by
  have sum : ∀ place < 4,
      (word ||| other).digit place = word.digit place + other.digit place := by
    intro place inside
    rw [digit_or]
    rcases apart place inside with zero | zero
    · rw [zero, Nat.zero_or, Nat.zero_add]
    · rw [zero, Nat.or_zero, Nat.add_zero]
  rw [toNat_eq_digits, toNat_eq_digits word, toNat_eq_digits other, sum 0 (by decide),
    sum 1 (by decide), sum 2 (by decide), sum 3 (by decide)]
  omega

end Chip8.Word
