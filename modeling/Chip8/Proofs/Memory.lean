/-
# Memory as a list

A block of memory is a stretch of the list of its cells. The main statements say so
for reading, where the block lies inside, and for overwriting, where the bytes take
the place of as many others.
-/

import Chip8.Memory

namespace Chip8.Memory

theorem byteAt_of_lt (memory : Memory) {address : Nat} (inside : address < 4096) :
    memory.byteAt address = memory[address] := by
  rw [byteAt, dif_pos inside]

/-- A block inside memory is a stretch of the cells. -/
theorem bytesFrom_eq_drop_take (memory : Memory) {start count : Nat}
    (inside : start + count ≤ 4096) :
    memory.bytesFrom start count = (memory.toList.take (start + count)).drop start := by
  apply List.ext_getElem
  · simp only [length_bytesFrom, List.length_drop, List.length_take, Vector.length_toList]
    omega
  · intro offset there _
    rw [length_bytesFrom] at there
    have cell : start + offset < 4096 := by omega
    simp [bytesFrom, byteAt_of_lt memory cell]

theorem getD_bytesFrom (memory : Memory) {start count offset : Nat} (inside : offset < count) :
    (memory.bytesFrom start count).getD offset 0 = memory.byteAt (start + offset) := by
  have there : offset < (memory.bytesFrom start count).length := by
    rw [length_bytesFrom]
    exact inside
  rw [List.getD_eq_getElem?_getD, List.getElem?_eq_getElem there, Option.getD_some]
  simp [bytesFrom]

/-- A block inside memory is read. -/
theorem readBlock_of_le (memory : Memory) {start count : Nat} (inside : start + count ≤ 4096) :
    memory.readBlock start count = .ok (memory.bytesFrom start count) := by
  have fits : InMemory start count := by
    unfold InMemory
    omega
  have stop : blockEnd start count - (start : Int).toNat = count := by
    unfold blockEnd
    dsimp only
    split <;> omega
  rw [readBlock, if_pos fits, stop, Int.toNat_natCast]

/-- A block that was read is as long as asked for. -/
theorem length_of_readBlock {memory : Memory} {address : Int} {count : Nat} {bytes : List Byte}
    (read : memory.readBlock address count = .ok bytes) : bytes.length = count := by
  unfold readBlock at read
  split at read
  case isTrue inside =>
    cases read
    have start := inside.1
    rw [length_bytesFrom]
    simp only [blockEnd]
    split <;> omega
  case isFalse => cases read

/-- Overwriting keeps to the cells of its bytes. -/
theorem byteAt_overwrite_outside (memory : Memory) {start address : Nat} {bytes : List Byte}
    (outside : address < start ∨ start + bytes.length ≤ address) :
    (memory.overwrite start bytes).byteAt address = memory.byteAt address := by
  rw [byteAt_overwrite]
  split
  case isTrue covered =>
    have behind : bytes.length ≤ address - start := by omega
    rw [List.getD_eq_getElem?_getD, List.getElem?_eq_none behind, Option.getD_none]
  case isFalse => rfl

/-- Bytes that fit take the place of as many cells. -/
theorem toList_overwrite (memory : Memory) {start : Nat} {bytes : List Byte}
    (inside : start + bytes.length ≤ 4096) :
    (memory.overwrite start bytes).toList =
      memory.toList.take start ++ bytes ++ memory.toList.drop (start + bytes.length) := by
  induction bytes generalizing memory start with
  | nil => simp [overwrite]
  | cons byte rest ih =>
    rw [List.length_cons] at inside
    have here : start < memory.toList.length := by
      rw [Vector.length_toList]
      omega
    have far : start < start + 1 + rest.length := by omega
    rw [overwrite, ih _ (by omega), Vector.toList_setIfInBounds, List.length_cons,
      List.take_add_one, List.take_set_of_le (Nat.le_refl start), List.getElem?_set_self here,
      List.drop_set_of_lt far]
    simp [Nat.add_assoc, Nat.add_comm 1]

end Chip8.Memory
