/-
# The bits of the words

Read as elements of the field of two elements, the bits of a word that the generator puts
together are sums of bits of the words that it is put together from, for the words of the state
and for those that are given out alike.
-/

import Chip8.Proofs.Random.Rounds
import Mathlib

namespace Chip8.Twister

/-- A bit of a word. -/
def bit (word : UInt32) (place : Nat) : ZMod 2 :=
  if word.toNat.testBit place then 1 else 0

theorem bit_xor (word other : UInt32) (place : Nat) :
    bit (word ^^^ other) place = bit word place + bit other place := by
  simp only [bit, UInt32.toNat_xor, Nat.testBit_xor]
  cases word.toNat.testBit place <;> cases other.toNat.testBit place <;> decide

theorem bit_and (word other : UInt32) (place : Nat) :
    bit (word &&& other) place = bit word place * bit other place := by
  simp only [bit, UInt32.toNat_and, Nat.testBit_and]
  cases word.toNat.testBit place <;> cases other.toNat.testBit place <;> decide

theorem bit_shiftRight {count : UInt32} (small : count.toNat < 32) (word : UInt32)
    (place : Nat) : bit (word >>> count) place = bit word (place + count.toNat) := by
  have shifted : (word >>> count).toNat = word.toNat >>> count.toNat := by
    rw [UInt32.toNat_shiftRight, Nat.mod_eq_of_lt small]
  rw [bit, bit, shifted, Nat.testBit_shiftRight, Nat.add_comm]

theorem bit_shiftLeft {count : UInt32} (small : count.toNat < 32) (word : UInt32) {place : Nat}
    (below : place < 32) :
    bit (word <<< count) place =
      if count.toNat ≤ place then bit word (place - count.toNat) else 0 := by
  have shifted : (word <<< count).toNat = word.toNat <<< count.toNat % 2 ^ 32 := by
    rw [UInt32.toNat_shiftLeft, Nat.mod_eq_of_lt small]
  simp only [bit, shifted, Nat.testBit_mod_two_pow, below, decide_true, Bool.true_and,
    Nat.testBit_shiftLeft, Bool.and_eq_true, decide_eq_true_eq, ite_and, ge_iff_le]

theorem bit_of_le (word : UInt32) {place : Nat} (outside : 32 ≤ place) : bit word place = 0 := by
  have below : word.toNat < 2 ^ place :=
    word.toNat_lt.trans_le (Nat.pow_le_pow_right Nat.two_pos outside)
  rw [bit, Nat.testBit_lt_two_pow below]
  rfl

theorem bit_or (word other : UInt32) (place : Nat) :
    bit (word ||| other) place =
      bit word place + bit other place + bit word place * bit other place := by
  simp only [bit, UInt32.toNat_or, Nat.testBit_or]
  cases word.toNat.testBit place <;> cases other.toNat.testBit place <;> decide

/-! ## Renewed and tempered words -/

theorem bit_leading_mask (place : Nat) : bit 0x80000000 place = if place = 31 then 1 else 0 := by
  have power : (0x80000000 : UInt32).toNat = 2 ^ 31 := rfl
  rw [bit, power, Nat.testBit_two_pow]
  simp only [decide_eq_true_eq, @eq_comm _ 31 place]

theorem bit_other_mask (place : Nat) : bit 0x7FFFFFFF place = if place < 31 then 1 else 0 := by
  have power : (0x7FFFFFFF : UInt32).toNat = 2 ^ 31 - 1 := rfl
  rw [bit, power, Nat.testBit_two_pow_sub_one]
  simp only [decide_eq_true_eq]

theorem bit_joined (word next : UInt32) (place : Nat) :
    bit (joined word next) place =
      if place < 31 then bit next place else if place = 31 then bit word place else 0 := by
  rw [joined, bit_or, bit_and, bit_and, bit_leading_mask, bit_other_mask]
  rcases Nat.lt_trichotomy place 31 with below | leading | above
  · rw [if_pos below, if_pos below, if_neg below.ne]
    ring
  · rw [leading]
    simp
  · simp [above.ne', above.not_gt]

theorem bit_zero (word : UInt32) : bit word 0 = if word &&& 1 = 1 then 1 else 0 := by
  have last : word &&& 1 = 1 ↔ word.toNat % 2 = 1 := by
    rw [← UInt32.toNat_inj, UInt32.toNat_and, ← Nat.and_one_is_mod]
    rfl
  simp only [bit, Nat.testBit_zero, decide_eq_true_eq, last]

/-- The bits of a renewed word are sums of bits of the words that it is put together from. -/
theorem bit_renewal (word next further : UInt32) (place : Nat) :
    bit (renewal word next further) place =
      bit further place + bit (joined word next) (place + 1) +
        bit next 0 * bit 0x9908B0DF place := by
  have last : bit next 0 = bit (joined word next) 0 := (bit_joined word next 0).symm
  have twist : bit (if joined word next &&& 1 = 1 then 0x9908B0DF else 0) place =
      bit next 0 * bit 0x9908B0DF place := by
    rw [last, bit_zero]
    split
    next => rw [one_mul]
    next =>
      rw [zero_mul]
      simp [bit]
  rw [renewal, bit_xor, bit_xor, twist, bit_shiftRight (by decide)]
  rfl

/-- The leading bit of a word that is given out is a sum of four bits of the state. -/
theorem bit_temper_leading (word : UInt32) :
    bit (temper word) 31 = bit word 31 + bit word 24 + bit word 16 + bit word 27 := by
  have wide : bit 0xEFC60000 31 = 1 := by decide +kernel
  have narrow : bit 0x9D2C5680 31 = 1 ∧ bit 0x9D2C5680 16 = 0 := by decide +kernel
  simp only [temper]
  generalize first : word ^^^ (word >>> 11) = a
  generalize second : a ^^^ ((a <<< 7) &&& 0x9D2C5680) = b
  generalize third : b ^^^ ((b <<< 15) &&& 0xEFC60000) = c
  have of_word (place : Nat) : bit a place = bit word place + bit word (place + 11) := by
    rw [← first, bit_xor, bit_shiftRight (by decide)]
    rfl
  have of_a : bit b 31 = bit a 31 + bit a 24 ∧ bit b 16 = bit a 16 := by
    rw [← second, bit_xor, bit_xor, bit_and, bit_and, narrow.1, narrow.2,
      bit_shiftLeft (by decide) _ (by decide), mul_zero, add_zero, mul_one]
    exact ⟨rfl, rfl⟩
  have of_b : bit c 31 = bit b 31 + bit b 16 := by
    rw [← third, bit_xor, bit_and, wide, bit_shiftLeft (by decide) _ (by decide), mul_one]
    rfl
  have of_c : bit (c ^^^ (c >>> 18)) 31 = bit c 31 := by
    rw [bit_xor, bit_shiftRight (by decide)]
    exact add_eq_left.mpr (bit_of_le c (by decide))
  have beyond : bit word 42 = 0 ∧ bit word 35 = 0 :=
    ⟨bit_of_le word (by decide), bit_of_le word (by decide)⟩
  rw [of_c, of_b, of_a.1, of_a.2, of_word, of_word, of_word, beyond.1, beyond.2]
  ring

theorem bit_leading_eq_zero_iff (word : UInt32) : bit word 31 = 0 ↔ word.toNat / 2 ^ 23 < 256 := by
  have below := word.toNat_lt
  have set : word.toNat.testBit 31 = true ↔ ¬ word.toNat / 2 ^ 23 < 256 := by
    rw [Nat.testBit_eq_decide_div_mod_eq, decide_eq_true_eq]
    omega
  by_cases leading : word.toNat / 2 ^ 23 < 256 <;> simp [bit, set]

end Chip8.Twister
