/-
# Cells named by integers

A list whose cells are named by any integers. A position from zero up to the
length counts from the start, a negative one down to minus the length counts
from the end, and every other position names no cell. A stretch of cells is
given by its two ends. Ends outside the list are moved to it, so nothing fails;
but a stretch that is replaced by more or fewer cells changes the length.

The main statements say what becomes of this where positions are natural numbers
inside the list: looking up, replacing and cutting out are the operations that
lists have anyway, and only then does the length stay what it was.
-/

import Mathlib.Data.List.Basic

namespace Chip8.Cells

variable {α : Type}

/-- The place that a position names in a list of some length. -/
def place? (length : Nat) (position : Int) : Option Nat :=
  if 0 ≤ position ∧ position < length then some position.toNat
  else if -length ≤ position ∧ position < 0 then some (length + position).toNat
  else none

/-- The cell at a position. -/
def lookUp? (cells : List α) (position : Int) : Option α :=
  (place? cells.length position).bind fun place => cells[place]?

/-- The cells with another one at a position. -/
def replace? (cells : List α) (position : Int) (cell : α) : Option (List α) :=
  (place? cells.length position).map fun place => cells.set place cell

/-- Where an end of a stretch lies in a list of some length. -/
def clip (length : Nat) (bound : Int) : Nat :=
  min (if bound < 0 then length + bound else bound).toNat length

/-- The cells from `start` up to, but without, `stop`. -/
def stretch (cells : List α) (start stop : Int) : List α :=
  (cells.take (clip cells.length stop)).drop (clip cells.length start)

/-- The cells with others in the place of those from `start` up to `stop`. -/
def splice (cells : List α) (start stop : Int) (others : List α) : List α :=
  let first := clip cells.length start
  cells.take first ++ others ++ cells.drop (max first (clip cells.length stop))

/-! ## Positions inside the list -/

theorem place?_natCast {length place : Nat} (inside : place < length) :
    place? length place = some place := by
  have bounds : 0 ≤ (place : Int) ∧ (place : Int) < length := by omega
  simp [place?, bounds]

theorem lookUp?_natCast {cells : List α} {place : Nat} (inside : place < cells.length) :
    lookUp? cells place = some cells[place] := by
  simp [lookUp?, place?_natCast inside]

theorem replace?_natCast {cells : List α} {place : Nat} (inside : place < cells.length)
    (cell : α) : replace? cells place cell = some (cells.set place cell) := by
  simp [replace?, place?_natCast inside]

@[simp] theorem clip_natCast (length bound : Nat) : clip length bound = min bound length := by
  have nonnegative : ¬ (bound : Int) < 0 := by omega
  simp [clip, nonnegative]

theorem stretch_natCast (cells : List α) (start stop : Nat) :
    stretch cells start stop = (cells.take stop).drop start := by
  rw [stretch, clip_natCast, clip_natCast, ← List.take_eq_take_min]
  rcases Nat.le_total start cells.length with inside | beyond
  · rw [Nat.min_eq_left inside]
  · have short : (cells.take stop).length ≤ cells.length := List.length_take_le' stop cells
    rw [Nat.min_eq_right beyond, List.drop_of_length_le short,
      List.drop_of_length_le (Nat.le_trans short beyond)]

/-- Where the ends come in order, a stretch gives way to the others and the rest
stays around them. -/
theorem splice_natCast (cells others : List α) {start stop : Nat} (ordered : start ≤ stop) :
    splice cells start stop others = cells.take start ++ others ++ cells.drop stop := by
  simp only [splice, clip_natCast, ← List.take_eq_take_min]
  congr 1
  rcases Nat.le_total stop cells.length with inside | beyond
  · congr 1
    omega
  · rw [List.drop_of_length_le (by omega), List.drop_of_length_le beyond]

end Chip8.Cells
