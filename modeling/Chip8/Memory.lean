/-
# Memory

Memory is 4096 bytes. Addresses arrive as integers, and every access is checked
as a whole before it touches anything: an access to `length` bytes from
`address` needs `0 ≤ address` and `address + length ≤ 4096`.
-/

import Chip8.Fault

namespace Chip8

/-- Memory cells by address. -/
abbrev Memory := Vector Byte 4096

/-- Whether `length` bytes from `address` lie in memory. -/
def InMemory (address length : Int) : Prop :=
  0 ≤ address ∧ address + length ≤ 4096

/-- Deciding whether an access lies in memory compares naturals only, so that it
stays cheap where the address is a word nobody knows. -/
instance (address length : Int) : Decidable (InMemory address length) :=
  decidable_of_iff (0 ≤ address ∧ (address + length).toNat ≤ 4096) (by unfold InMemory; omega)

namespace Memory

/-- Memory with every byte zero. -/
def zero : Memory := Vector.replicate 4096 0

/-- The byte at an address; beyond the end there are zeros. -/
def byteAt (memory : Memory) (address : Nat) : Byte :=
  if inside : address < 4096 then memory[address] else 0

/-- The bytes from `start`, `count` of them. -/
def bytesFrom (memory : Memory) (start count : Nat) : List Byte :=
  (List.range count).map fun offset => memory.byteAt (start + offset)

/-- Replace the bytes from `start` on. Bytes beyond the end are dropped. -/
def overwrite (memory : Memory) (start : Nat) : List Byte → Memory
  | [] => memory
  | byte :: rest => overwrite (memory.setIfInBounds start byte) (start + 1) rest

@[simp] theorem byteAt_zero (address : Nat) : zero.byteAt address = 0 := by
  unfold byteAt zero
  split <;> simp

/-- Overwriting changes the bytes it covers and no others. -/
theorem byteAt_overwrite (memory : Memory) (start : Nat) (bytes : List Byte) (address : Nat) :
    (memory.overwrite start bytes).byteAt address =
      if start ≤ address ∧ address < 4096 then
        bytes.getD (address - start) (memory.byteAt address)
      else memory.byteAt address := by
  induction bytes generalizing memory start with
  | nil => simp [overwrite]
  | cons byte rest ih =>
    rw [overwrite, ih]
    by_cases inside : address < 4096
    · by_cases here : address = start
      · subst here
        have uncovered : ¬(address + 1 ≤ address ∧ address < 4096) := by omega
        rw [if_neg uncovered, if_pos ⟨Nat.le_refl address, inside⟩]
        simp [byteAt, inside]
      · by_cases before : start < address
        · have shift : address - start = (address - (start + 1)) + 1 := by omega
          have after : start + 1 ≤ address := before
          have covered : start ≤ address := by omega
          simp [after, covered, inside, shift, byteAt, Ne.symm here]
        · have notAfter : ¬ start + 1 ≤ address := by omega
          have notCovered : ¬ start ≤ address := by omega
          simp [notAfter, notCovered, byteAt, inside, Ne.symm here]
    · simp [inside, byteAt]

@[simp] theorem length_bytesFrom (memory : Memory) (start count : Nat) :
    (memory.bytesFrom start count).length = count := by
  simp [bytesFrom]

/-! ## Checked access -/

/-- Read one byte. -/
def read (memory : Memory) (address : Int) : Except Fault Byte :=
  if InMemory address 1 then .ok (memory.byteAt address.toNat)
  else .error (.outsideMemory address 1)

/-- Where a block ends. A block of negative length can end before address zero;
then its end counts from the end of memory. -/
def blockEnd (address length : Int) : Nat :=
  let last := address + length
  (if last < 0 then last + 4096 else last).toNat

/-- Read a block. A block that ends before it starts is empty. -/
def readBlock (memory : Memory) (address length : Int) : Except Fault (List Byte) :=
  if InMemory address length then
    .ok (memory.bytesFrom address.toNat (blockEnd address length - address.toNat))
  else .error (.outsideMemory address length)

/-- Write a block. -/
def writeBlock (memory : Memory) (address : Int) (bytes : List Byte) : Except Fault Memory :=
  if InMemory address bytes.length then .ok (memory.overwrite address.toNat bytes)
  else .error (.outsideMemory address bytes.length)

/-- Write one byte. -/
def write (memory : Memory) (address : Int) (byte : Byte) : Except Fault Memory :=
  memory.writeBlock address [byte]

/-- Read one instruction word, its high byte first. -/
def fetch (memory : Memory) (address : Int) : Except Fault Word :=
  if InMemory address 2 then
    .ok (Word.ofBytes (memory.byteAt address.toNat) (memory.byteAt (address.toNat + 1)))
  else .error (.outsideMemory address 2)

end Memory

end Chip8
