/-
# Words and the rows of the table

A row of the table fixes some nibbles of a word and leaves the others free. A word
matches a row if it agrees with the row's own word in the nibbles that are fixed;
`decode` is nowhere mentioned in that. What `decode` selects is then a matter of
matching: it selects the row that a word matches, and nothing if there is none.

Two pairs of rows overlap. The words of `clearScreen` and of `ret` match the row of
`systemCall` as well, and there the more special row wins.
-/

import Chip8.Operation.Decode
import Mathlib.Tactic.SplitIfs

namespace Chip8

namespace Operation

/-- A word agrees with the row of an operation in every nibble that the row fixes. -/
def Matches (operation : Operation) (word : Word) : Prop :=
  match operation.shape with
  | .fixed => word = operation.code
  | .address | .registerByte | .registerPairNibble => word.family = operation.code.family
  | .registerPair =>
    word.family = operation.code.family ∧ word.nibble = operation.code.nibble
  | .register =>
    word.family = operation.code.family ∧ word.immediate = operation.code.immediate

instance (operation : Operation) (word : Word) : Decidable (operation.Matches word) := by
  unfold Matches
  split <;> infer_instance

/-- A word matches a row, and no row that goes before it. -/
structure Selects (word : Word) (operation : Operation) : Prop where
  row : operation.Matches word
  first : operation = .systemCall → ¬ clearScreen.Matches word ∧ ¬ ret.Matches word

variable {operation : Operation} {word : Word}

theorem Matches.family (row : operation.Matches word) :
    word.family = operation.code.family := by
  unfold Matches at row
  split at row
  · exact congrArg Word.family row
  · exact row
  · exact row
  · exact row
  · exact row.1
  · exact row.1

theorem matches_pair (shape : operation.shape = .registerPair)
    (family : word.family = operation.code.family) (nibble : word.nibble = operation.code.nibble) :
    operation.Matches word := by
  rw [Matches, shape]
  exact ⟨family, nibble⟩

theorem matches_register (shape : operation.shape = .register)
    (family : word.family = operation.code.family)
    (immediate : word.immediate = operation.code.immediate) : operation.Matches word := by
  rw [Matches, shape]
  exact ⟨family, immediate⟩

/-- Whatever matches at all is matched by a row that wins. -/
theorem Matches.exists_selects (row : operation.Matches word) :
    ∃ winner, Selects word winner := by
  by_cases clears : clearScreen.Matches word
  · exact ⟨.clearScreen, clears, nofun⟩
  · by_cases returns : ret.Matches word
    · exact ⟨.ret, returns, nofun⟩
    · exact ⟨operation, row, fun _ => ⟨clears, returns⟩⟩

end Operation

open Operation

variable {word : Word} {operation : Operation}

/-! ## What matches is selected -/

theorem decode_of_selects (selected : Selects word operation) : decode word = some operation := by
  obtain ⟨row, first⟩ := selected
  cases operation
  case systemCall =>
    -- the two words that rows of their own take away from this one
    have clears : ¬ word = clearScreen.code := (first rfl).1
    have returns : ¬ word = ret.code := (first rfl).2
    have family : word.family = 0 := row
    rw [decode, family]
    show (if word = clearScreen.code then _ else if word = ret.code then _ else _) = _
    rw [if_neg clears, if_neg returns]
  case clearScreen =>
    rw [show word = clearScreen.code from row]
    rfl
  case ret =>
    rw [show word = ret.code from row]
    rfl
  case skipIfSame | skipUnlessSame | copy | bitOr | bitAnd | bitXor | add | subtract
      | shiftRight | subtractFrom | shiftLeft =>
    rw [decode, row.1, row.2]
    rfl
  case skipIfHeld | skipUnlessHeld | readDelay | awaitKey | setDelay | setSound | advanceIndex
      | pointAtGlyph | storeDigits | storeRegisters | loadRegisters =>
    rw [decode, row.1, row.2]
    rfl
  all_goals
    rw [decode, row.family]
    rfl

/-! ## What is selected matches -/

theorem decodeArithmetic_sound {nibble : Nat}
    (selected : decodeArithmetic nibble = some operation) :
    operation.shape = .registerPair ∧ 8 = operation.code.family ∧
      nibble = operation.code.nibble := by
  unfold decodeArithmetic at selected
  split at selected
  all_goals cases selected
  all_goals exact ⟨rfl, rfl, rfl⟩

theorem decodeKey_sound {selector : Nat} (selected : decodeKey selector = some operation) :
    operation.shape = .register ∧ 14 = operation.code.family ∧
      selector = operation.code.immediate.toNat := by
  unfold decodeKey at selected
  split at selected
  all_goals cases selected
  all_goals exact ⟨rfl, rfl, rfl⟩

theorem decodeMiscellaneous_sound {selector : Nat}
    (selected : decodeMiscellaneous selector = some operation) :
    operation.shape = .register ∧ 15 = operation.code.family ∧
      selector = operation.code.immediate.toNat := by
  unfold decodeMiscellaneous at selected
  split at selected
  all_goals cases selected
  all_goals exact ⟨rfl, rfl, rfl⟩

theorem ne_systemCall {shape : Shape} (shaped : operation.shape = shape)
    (other : shape ≠ .address) : operation ≠ .systemCall := by
  rintro rfl
  exact other shaped.symm

theorem selects_of_decode (selected : decode word = some operation) : Selects word operation := by
  unfold decode at selected
  split at selected
  case h_1 family =>
    split_ifs at selected with clears returns
    · cases selected
      exact ⟨clears, nofun⟩
    · cases selected
      exact ⟨returns, nofun⟩
    · cases selected
      exact ⟨family, fun _ => ⟨clears, returns⟩⟩
  case h_6 family =>
    split_ifs at selected with last
    cases selected
    exact ⟨⟨family, last⟩, nofun⟩
  case h_10 family =>
    split_ifs at selected with last
    cases selected
    exact ⟨⟨family, last⟩, nofun⟩
  case h_9 family =>
    obtain ⟨shape, first, last⟩ := decodeArithmetic_sound selected
    exact ⟨matches_pair shape (family.trans first) last,
      fun call => absurd call (ne_systemCall shape (by decide))⟩
  case h_15 family =>
    obtain ⟨shape, first, last⟩ := decodeKey_sound selected
    exact ⟨matches_register shape (family.trans first) (UInt8.toNat_inj.mp last),
      fun call => absurd call (ne_systemCall shape (by decide))⟩
  case h_16 family =>
    obtain ⟨shape, first, last⟩ := decodeMiscellaneous_sound selected
    exact ⟨matches_register shape (family.trans first) (UInt8.toNat_inj.mp last),
      fun call => absurd call (ne_systemCall shape (by decide))⟩
  case h_17 => cases selected
  all_goals
    rename_i family
    cases selected
    exact ⟨family, nofun⟩

theorem decode_eq_some_iff : decode word = some operation ↔ Selects word operation :=
  ⟨selects_of_decode, decode_of_selects⟩

/-- A word selects nothing exactly where it matches no row. -/
theorem decode_eq_none_iff :
    decode word = none ↔ ∀ operation : Operation, ¬ operation.Matches word := by
  constructor
  · intro unknown operation row
    obtain ⟨winner, selected⟩ := row.exists_selects
    rw [decode_of_selects selected] at unknown
    cases unknown
  · intro unmatched
    cases decoded : decode word with
    | none => rfl
    | some operation => exact absurd (selects_of_decode decoded).row (unmatched operation)

end Chip8
