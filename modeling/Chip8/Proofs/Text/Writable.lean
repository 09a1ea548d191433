/-
# Integers that can be written

An integer can be written if its decimal digits are no more than the limit, and so
exactly if it lies below a power of ten on either side of zero. `widest` is the largest
integer that can be written: a count that has reached it comes next to one that cannot.
-/

import Mathlib.Algebra.Group.Nat.Defs
import Chip8.Fault

namespace Chip8

/-- The digits of an integer are few exactly if it is small. -/
theorem isWritable_iff {value : Int} : IsWritable value ↔ value.natAbs < 10 ^ Text.digitLimit :=
  Nat.length_toDigits_le_iff (by decide) (by decide)

/-- The largest integer that can be written: as many nines as the limit allows. -/
@[irreducible]
def widest : Int := (10 ^ Text.digitLimit : Nat) - 1

theorem widest_add_one : widest + 1 = (10 ^ Text.digitLimit : Nat) := by
  unfold widest
  exact Int.sub_add_cancel _ 1

theorem isWritable_iff_between {value : Int} :
    IsWritable value ↔ -widest ≤ value ∧ value ≤ widest := by
  have behind := widest_add_one
  rw [isWritable_iff]
  generalize 10 ^ Text.digitLimit = bound at behind ⊢
  omega

theorem widest_nonneg : 0 ≤ widest := by
  have behind := widest_add_one
  have positive : 0 < 10 ^ Text.digitLimit := Nat.pow_pos (by decide)
  generalize 10 ^ Text.digitLimit = bound at behind positive
  omega

theorem isWritable_zero : IsWritable 0 := by
  have least := widest_nonneg
  rw [isWritable_iff_between]
  omega

theorem isWritable_widest : IsWritable widest := by
  have least := widest_nonneg
  rw [isWritable_iff_between]
  omega

theorem not_isWritable_widest_add_one : ¬ IsWritable (widest + 1) := by
  rw [isWritable_iff_between]
  omega

/-- Between two integers that can be written all can. -/
theorem IsWritable.between {low value high : Int} (from_low : IsWritable low)
    (to_high : IsWritable high) (above : low ≤ value) (below : value ≤ high) :
    IsWritable value := by
  rw [isWritable_iff_between] at *
  omega

end Chip8
