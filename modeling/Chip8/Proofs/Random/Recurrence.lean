/-
# The leading bits of the words

The bits of the words at one place form a sequence over the field of two elements. Putting a
word together out of earlier ones is linear in the bits, so the sequences are tied to one another
by sums of delayed copies of themselves, that is, by polynomials in the delay. The polynomials
commute. Going round all 32 places once, one polynomial is found that makes every one of the
sequences vanish, and with them each sum of them, such as the leading bits of the tempered words.

This polynomial has degree 19937 and takes the value one at one. Were the leading bits of 19938
words in a row all set, it would have to make a sequence vanish that is one throughout; but on
such a sequence it takes its value at one. So words without the leading bit are never far away.
-/

import Chip8.Proofs.Random.Bits
import Mathlib

open Polynomial

namespace Chip8.Twister

/-! ## Sequences of bits -/

/-- Sequences of bits. -/
abbrev Bits := Nat → ZMod 2

/-- A sequence without its first bit. -/
def delay : Module.End (ZMod 2) Bits :=
  LinearMap.funLeft (ZMod 2) (ZMod 2) Nat.succ

theorem delay_pow (count : Nat) (bits : Bits) (position : Nat) :
    (delay ^ count) bits position = bits (position + count) := by
  induction count generalizing position with
  | zero => rfl
  | succ count ih =>
    rw [pow_succ', Module.End.mul_apply]
    exact (ih (position + 1)).trans (congrArg bits (by omega))

/-- A sum of delayed copies of a sequence, one for each term of a polynomial. -/
noncomputable def combine (polynomial : (ZMod 2)[X]) : Module.End (ZMod 2) Bits :=
  aeval delay polynomial

theorem combine_one (bits : Bits) : combine 1 bits = bits := by
  rw [combine, map_one]
  rfl

theorem combine_mul (polynomial other : (ZMod 2)[X]) (bits : Bits) :
    combine (polynomial * other) bits = combine polynomial (combine other bits) := by
  rw [combine, map_mul]
  rfl

theorem combine_add (polynomial other : (ZMod 2)[X]) (bits : Bits) :
    combine (polynomial + other) bits = combine polynomial bits + combine other bits := by
  rw [combine, map_add]
  rfl

theorem combine_X_pow (count : Nat) (bits : Bits) (position : Nat) :
    combine (X ^ count) bits position = bits (position + count) := by
  rw [combine, map_pow, aeval_X, delay_pow]

theorem combine_C (scalar : ZMod 2) (bits : Bits) : combine (C scalar) bits = scalar • bits := by
  rw [combine, aeval_C]
  rfl

/-- On a sequence that is one for long enough, a polynomial takes its value at one. -/
theorem combine_of_ones {polynomial : (ZMod 2)[X]} {degree : Nat}
    (short : polynomial.natDegree ≤ degree) {bits : Bits} {position : Nat}
    (ones : ∀ ahead ≤ degree, bits (position + ahead) = 1) :
    combine polynomial bits position = polynomial.eval 1 := by
  have terms : combine polynomial bits position =
      ∑ power ∈ Finset.range (degree + 1), polynomial.coeff power * bits (position + power) := by
    rw [combine, aeval_eq_sum_range' (Nat.lt_succ_of_le short), LinearMap.sum_apply,
      Finset.sum_apply]
    refine Finset.sum_congr rfl fun power _ => ?_
    rw [LinearMap.smul_apply, Pi.smul_apply, delay_pow, smul_eq_mul]
  rw [terms, eval_eq_sum_range' (Nat.lt_succ_of_le short)]
  refine Finset.sum_congr rfl fun power member => ?_
  rw [ones power (Nat.le_of_lt_succ (Finset.mem_range.mp member)), one_pow]

/-! ## The bits of the state at one place -/

section Strands

variable (words : Vector UInt32 624)

/-- The bits of the words at one place. The leading bit of a word is used together with the other
bits of the next, and comes one earlier. -/
def strand (place : Nat) : Bits :=
  fun position => bit (wordOf words (if place < 31 then position + 1 else position)) place

/-- A renewed word less the word further on that it is put together from. -/
noncomputable def tap (count further : Nat) : (ZMod 2)[X] :=
  X ^ count + X ^ further

theorem combine_tap {count further : Nat} {bits rest : Bits}
    (renewed : ∀ position, bits (position + count) = bits (position + further) + rest position) :
    combine (tap count further) bits = rest := by
  funext position
  rw [tap, combine_add, Pi.add_apply, combine_X_pow, combine_X_pow, renewed]
  linear_combination bits (position + further) * (CharTwo.two_eq_zero : (2 : ZMod 2) = 0)

theorem natDegree_tap_le {count further : Nat} (later : further ≤ count) :
    (tap count further).natDegree ≤ count :=
  natDegree_add_le_of_degree_le (natDegree_X_pow_le count)
    ((natDegree_X_pow_le further).trans later)

theorem eval_tap (count further : Nat) : (tap count further).eval 1 = 0 := by
  rw [tap, eval_add, eval_pow, eval_pow, eval_X, one_pow, one_pow, CharTwo.add_self_eq_zero]

theorem combine_strand {place : Nat} (below : place < 31) :
    combine (tap 623 396) (strand words place) =
      strand words (place + 1) + bit 0x9908B0DF place • strand words 0 := by
  apply combine_tap
  intro position
  have word := wordOf_add_round words position
  have next : bit (joined (wordOf words position) (wordOf words (position + 1))) (place + 1) =
      strand words (place + 1) position := by
    rw [bit_joined, strand]
    split
    next => rfl
    next => rw [if_pos (by omega)]
  have renewed : strand words place (position + 623) =
      bit (wordOf words (position + 624)) place := by
    rw [strand, if_pos below]
  have further : strand words place (position + 396) =
      bit (wordOf words (position + 397)) place := by
    rw [strand, if_pos below]
  rw [renewed, word, bit_renewal, next, further, add_assoc]
  exact congrArg _ (congrArg _ (mul_comm _ _))

theorem combine_strand_leading :
    combine (tap 624 397) (strand words 31) = strand words 0 := by
  apply combine_tap
  intro position
  have word := wordOf_add_round words position
  have beyond : bit (joined (wordOf words position) (wordOf words (position + 1))) (31 + 1) = 0 :=
    bit_of_le _ (by decide)
  have twisted : bit 0x9908B0DF 31 = 1 := by decide +kernel
  have renewed : strand words 31 (position + 624) = bit (wordOf words (position + 624)) 31 := rfl
  rw [renewed, word, bit_renewal, beyond, twisted, add_zero, mul_one]
  rfl

/-! ## The polynomial of the recurrence -/

/-- The polynomial that makes the bits at a place out of the last bits, from the one that leads
from place to place. This one is a variable: its powers are too high to be unfolded. -/
noncomputable def fromLast (between : (ZMod 2)[X]) : Nat → (ZMod 2)[X]
  | 0 => 1
  | place + 1 => between * fromLast between place + C (bit 0x9908B0DF place)

theorem combine_fromLast {place : Nat} (within : place ≤ 31) :
    combine (fromLast (tap 623 396) place) (strand words 0) = strand words place := by
  induction place with
  | zero => rw [fromLast, combine_one]
  | succ place ih =>
    rw [fromLast, combine_add, combine_mul, ih (by omega), combine_strand words (by omega),
      combine_C, add_assoc, ZModModule.add_self, add_zero]

theorem natDegree_fromLast_le {between : (ZMod 2)[X]} {degree : Nat}
    (short : between.natDegree ≤ degree) (place : Nat) :
    (fromLast between place).natDegree ≤ place * degree := by
  induction place with
  | zero =>
    rw [fromLast, natDegree_one]
    exact Nat.zero_le _
  | succ place ih =>
    have product : (between * fromLast between place).natDegree ≤ (place + 1) * degree := by
      rw [Nat.succ_mul]
      refine natDegree_mul_le.trans ?_
      omega
    rw [fromLast]
    refine natDegree_add_le_of_degree_le product ?_
    rw [natDegree_C]
    exact Nat.zero_le _

/-- The polynomial that leads once round all places and back. -/
noncomputable def round (leading between : (ZMod 2)[X]) : (ZMod 2)[X] :=
  leading * fromLast between 31 + 1

theorem natDegree_round_le {leading between : (ZMod 2)[X]} (short : leading.natDegree ≤ 624)
    (others : between.natDegree ≤ 623) : (round leading between).natDegree ≤ 19937 := by
  have product : (leading * fromLast between 31).natDegree ≤ 19937 := by
    have last := natDegree_fromLast_le others 31
    refine natDegree_mul_le.trans ?_
    omega
  refine natDegree_add_le_of_degree_le product ?_
  rw [natDegree_one]
  exact Nat.zero_le _

theorem eval_round {leading : (ZMod 2)[X]} (root : leading.eval 1 = 0) (between : (ZMod 2)[X]) :
    (round leading between).eval 1 = 1 := by
  rw [round, eval_add, eval_mul, root, zero_mul, zero_add, eval_one]

/-- The polynomial of the recurrence that the bits at every place follow. -/
noncomputable def recurrence : (ZMod 2)[X] :=
  round (tap 624 397) (tap 623 396)

theorem natDegree_recurrence_le : recurrence.natDegree ≤ 19937 :=
  natDegree_round_le (natDegree_tap_le (by decide)) (natDegree_tap_le (by decide))

theorem eval_recurrence : recurrence.eval 1 = 1 :=
  eval_round (eval_tap 624 397) (tap 623 396)

/-- The recurrence makes the bits at every place vanish. -/
theorem combine_recurrence_strand {place : Nat} (within : place ≤ 31) :
    combine recurrence (strand words place) = 0 := by
  have of_last : combine recurrence (strand words 0) = 0 := by
    rw [recurrence, round, combine_add, combine_mul, combine_fromLast words (by decide),
      combine_strand_leading, combine_one, ZModModule.add_self]
  rw [← combine_fromLast words within, ← combine_mul, mul_comm, combine_mul, of_last, map_zero]

/-! ## Words without the leading bit -/

/-- The leading bits of the words as they are given out, the first word left out. -/
def leadingBits : Bits :=
  fun position => bit (temper (wordOf words (position + 1))) 31

theorem leadingBits_eq :
    leadingBits words =
      combine (X ^ 1) (strand words 31) + strand words 24 + strand words 16 + strand words 27 := by
  funext position
  simp only [Pi.add_apply, combine_X_pow]
  exact bit_temper_leading _

theorem combine_recurrence_leadingBits : combine recurrence (leadingBits words) = 0 := by
  have leading : combine recurrence (combine (X ^ 1) (strand words 31)) = 0 := by
    rw [← combine_mul, mul_comm, combine_mul, combine_recurrence_strand words le_rfl, map_zero]
  rw [leadingBits_eq, map_add, map_add, map_add, leading,
    combine_recurrence_strand words (by decide), combine_recurrence_strand words (by decide),
    combine_recurrence_strand words (by decide), add_zero, add_zero, add_zero]

/-- Among 19938 leading bits in a row there is one that is not set. -/
theorem exists_leadingBits_eq_zero (position : Nat) :
    ∃ ahead ≤ 19937, leadingBits words (position + ahead) = 0 := by
  by_contra all
  have ones : ∀ ahead ≤ 19937, leadingBits words (position + ahead) = 1 := by
    intro ahead within
    have set : leadingBits words (position + ahead) ≠ 0 := fun unset => all ⟨ahead, within, unset⟩
    exact (Fin.exists_fin_two.mp ⟨_, rfl⟩).resolve_left set
  have one := combine_of_ones natDegree_recurrence_le ones
  rw [combine_recurrence_leadingBits, eval_recurrence] at one
  exact zero_ne_one one

end Strands

end Chip8.Twister
