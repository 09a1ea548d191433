/-
# A machine seen as integers

`Machine.toRaw` writes a machine out as a raw machine: bytes, words and keys become
the integers they stand for, and blocks become lists. `Outcome.toRaw` does the same
with an outcome.

Changing one cell and then writing the block out is the same as writing it out and
changing the cell of the list; the statements here say so for every kind of cell.
-/

import Chip8.Proofs.Keypad
import Chip8.Proofs.Raw.Exec

namespace Chip8

/-- Bytes as integers. -/
def bytesOf {count : Nat} (cells : Vector Byte count) : List Int :=
  cells.toList.map fun cell => (cell.toNat : Int)

/-- Words as integers. -/
def wordsOf {count : Nat} (cells : Vector Word count) : List Int :=
  cells.toList.map fun cell => (cell.toNat : Int)

/-- The held keys as integers. -/
def Keypad.numbers (keypad : Keypad) : Finset Int :=
  (keypad.heldKeys.map fun key => (key.val : Int)).toFinset

/-- A screen with its sides written out. -/
def Display.toRaw {width height : Int} (display : Display width height) : RawScreen :=
  { width := width
    height := height
    pixels := display.pixels.toList.map Vector.toList
    redraw := display.redraw }

/-- A machine written out in integers. -/
def Machine.toRaw (machine : Machine) : RawMachine :=
  { memory := bytesOf machine.memory
    registers := bytesOf machine.registers
    index := machine.index.toNat
    counter := machine.counter.toNat
    slots := wordsOf machine.stack.slots
    depth := machine.stack.depth
    delay := machine.delay.toNat
    sound := machine.sound.toNat
    keys := machine.keypad.numbers
    screen := machine.screen.toRaw
    tick := machine.tick
    random := machine.random
    program := machine.program
    settings := machine.settings
    last := machine.last }

/-- An outcome written out in integers, the answer by `written`. -/
def Outcome.toRaw {α β : Type} (written : α → β) (outcome : Outcome α) :
    EStateM.Result RawFault RawMachine β :=
  match outcome.result with
  | .ok answer => .ok (written answer) outcome.machine.toRaw
  | .error fault => .error (.refused fault) outcome.machine.toRaw

/-! ## Cells of a block -/

section Blocks

variable {α β : Type} {count : Nat} (cells : Vector α count) (written : α → β)

theorem lookUp?_toList_map {place : Nat} (inside : place < count) :
    Cells.lookUp? (cells.toList.map written) place = some (written cells[place]) := by
  rw [Cells.lookUp?_natCast (by simpa using inside)]
  simp

theorem replace?_toList_map {place : Nat} (inside : place < count) (value : α) :
    Cells.replace? (cells.toList.map written) place (written value) =
      some ((cells.set place value).toList.map written) := by
  rw [Cells.replace?_natCast (by simpa using inside)]
  simp [Vector.toList_set, List.map_set]

end Blocks

theorem lookUp?_toList {α : Type} {count : Nat} (cells : Vector α count) (place : Fin count) :
    Cells.lookUp? cells.toList place.val = some cells[place] := by
  have found := lookUp?_toList_map cells id place.isLt
  rwa [List.map_id] at found

theorem replace?_toList {α : Type} {count : Nat} (cells : Vector α count) (place : Fin count)
    (value : α) :
    Cells.replace? cells.toList place.val value = some (cells.set place value).toList := by
  have changed := replace?_toList_map cells id place.isLt value
  rwa [List.map_id, List.map_id] at changed

@[simp] theorem length_bytesOf {count : Nat} (cells : Vector Byte count) :
    (bytesOf cells).length = count := by
  simp [bytesOf]

@[simp] theorem length_wordsOf {count : Nat} (cells : Vector Word count) :
    (wordsOf cells).length = count := by
  simp [wordsOf]

/-! ## Keys -/

theorem Keypad.mem_numbers {keypad : Keypad} {number : Int} :
    number ∈ keypad.numbers ↔
      ∃ (key : Nat) (_ : key < 16), keypad[key] = true ∧ (key : Int) = number := by
  simp only [numbers, List.mem_toFinset, List.mem_map, mem_heldKeys]
  constructor
  · rintro ⟨key, held, same⟩
    exact ⟨key.val, key.isLt, held, same⟩
  · rintro ⟨key, real, held, same⟩
    exact ⟨⟨key, real⟩, held, same⟩

theorem Keypad.natCast_mem_numbers {keypad : Keypad} {key : Nat} (real : key < 16) :
    (key : Int) ∈ keypad.numbers ↔ keypad[key] = true := by
  rw [mem_numbers]
  constructor
  · rintro ⟨other, _, held, same⟩
    have equal : other = key := Int.ofNat_inj.mp same
    subst equal
    exact held
  · intro held
    exact ⟨key, real, held, rfl⟩

@[simp] theorem Keypad.numbers_released : Keypad.released.numbers = ∅ := by
  apply Finset.eq_empty_of_forall_notMem
  intro number member
  obtain ⟨key, real, held, _⟩ := mem_numbers.mp member
  simp [released] at held

/-- Pressing a key adds its number, releasing it takes the number away. -/
theorem Keypad.numbers_set (keypad : Keypad) {key : Nat} (real : key < 16) (pressed : Bool) :
    Keypad.numbers (keypad.set key pressed) =
      if pressed then insert (key : Int) keypad.numbers else keypad.numbers.erase key := by
  ext number
  have changed : number ∈ Keypad.numbers (keypad.set key pressed) ↔
      (number = key ∧ pressed = true) ∨ (number ≠ key ∧ number ∈ keypad.numbers) := by
    simp only [mem_numbers]
    constructor
    · rintro ⟨other, inside, held, rfl⟩
      by_cases same : key = other
      · subst same
        left
        simpa using held
      · right
        rw [Vector.getElem_set_ne real inside same] at held
        exact ⟨fun equal => same (Int.ofNat_inj.mp equal).symm, other, inside, held, rfl⟩
    · rintro (⟨rfl, rfl⟩ | ⟨apart, other, inside, held, rfl⟩)
      · exact ⟨key, real, by simp, rfl⟩
      · have different : key ≠ other := by
          rintro rfl
          exact apart rfl
        refine ⟨other, inside, ?_, rfl⟩
        rw [Vector.getElem_set_ne real inside different]
        exact held
  rw [changed]
  cases pressed <;> simp
  by_cases same : number = key <;> simp [same]

/-- The least number is that of the lowest held key. -/
theorem Machine.heldKey_toRaw (machine : Machine) :
    machine.toRaw.heldKey = machine.keypad.lowest?.map fun key => (key.val : Int) := by
  cases lowest : machine.keypad.lowest? with
  | none =>
    have none_held := Keypad.lowest?_eq_none_iff.mp lowest
    have empty : ¬ machine.toRaw.keys.Nonempty := by
      rintro ⟨number, member⟩
      obtain ⟨key, real, held, _⟩ := Keypad.mem_numbers.mp member
      have released : machine.keypad[key] = false := none_held ⟨key, real⟩
      rw [released] at held
      cases held
    rw [RawMachine.heldKey, dif_neg empty]
    rfl
  | some key =>
    obtain ⟨held, least⟩ := Keypad.lowest?_eq_some_iff.mp lowest
    have member : (key.val : Int) ∈ machine.toRaw.keys :=
      Keypad.mem_numbers.mpr ⟨key.val, key.isLt, held, rfl⟩
    rw [RawMachine.heldKey, dif_pos ⟨_, member⟩]
    apply congrArg some
    apply le_antisymm
    · exact Finset.min'_le _ _ member
    · apply Finset.le_min'
      intro number found
      obtain ⟨other, real, pressed, rfl⟩ := Keypad.mem_numbers.mp found
      exact Int.ofNat_le.mpr (least ⟨other, real⟩ pressed)

end Chip8
