/-
# The representation of a machine

A raw machine has no types that keep its cells in their ranges and its blocks at
their lengths, so `RawMachine.WellFormed` says it. The well-formed raw machines are
exactly the machines written out. Hence everything proved of machines is proved of
well-formed raw machines, and since commands lead a raw machine where they lead the
machine, no command ever leaves the ranges, whether it is obeyed, refused, or given
up halfway.
-/

import Chip8.Proofs.Raw.Simulation.Run
import Mathlib.Data.Set.List

namespace Chip8

namespace RawMachine

/-- Every cell is in its range and every block at its length. -/
structure WellFormed (raw : RawMachine) : Prop where
  memory_length : raw.memory.length = 4096
  memory_bytes : ∀ cell ∈ raw.memory, 0 ≤ cell ∧ cell ≤ 255
  registers_length : raw.registers.length = 16
  registers_bytes : ∀ cell ∈ raw.registers, 0 ≤ cell ∧ cell ≤ 255
  index_word : 0 ≤ raw.index ∧ raw.index ≤ 0xFFFF
  counter_word : 0 ≤ raw.counter ∧ raw.counter ≤ 0xFFFF
  slots_length : raw.slots.length = 16
  slots_words : ∀ slot ∈ raw.slots, 0 ≤ slot ∧ slot ≤ 0xFFFF
  depth_bounds : 0 ≤ raw.depth ∧ raw.depth ≤ 16
  delay_byte : 0 ≤ raw.delay ∧ raw.delay ≤ 255
  sound_byte : 0 ≤ raw.sound ∧ raw.sound ≤ 255
  keys_real : ∀ key ∈ raw.keys, 0 ≤ key ∧ key ≤ 15
  width_eq : raw.screen.width = 64
  height_eq : raw.screen.height = 32
  rows_length : raw.screen.pixels.length = 32
  columns_length : ∀ row ∈ raw.screen.pixels, row.length = 64
  program_length : raw.program.length ≤ 3584

end RawMachine

/-! ## Machines written out are well-formed -/

theorem byte_bounds (byte : Byte) : 0 ≤ (byte.toNat : Int) ∧ (byte.toNat : Int) ≤ 255 := by
  have bound := byte.toNat_lt
  omega

theorem word_bounds (word : Word) : 0 ≤ (word.toNat : Int) ∧ (word.toNat : Int) ≤ 0xFFFF := by
  have bound := word.toNat_lt
  omega

theorem bytesOf_bounds {count : Nat} (block : Vector Byte count) :
    ∀ cell ∈ bytesOf block, 0 ≤ cell ∧ cell ≤ 255 := by
  intro cell member
  obtain ⟨byte, _, rfl⟩ := List.mem_map.mp member
  exact byte_bounds byte

theorem wordsOf_bounds {count : Nat} (block : Vector Word count) :
    ∀ cell ∈ wordsOf block, 0 ≤ cell ∧ cell ≤ 0xFFFF := by
  intro cell member
  obtain ⟨word, _, rfl⟩ := List.mem_map.mp member
  exact word_bounds word

theorem Machine.WellFormed.toRaw {machine : Machine} (wellFormed : machine.WellFormed) :
    machine.toRaw.WellFormed where
  memory_length := length_bytesOf machine.memory
  memory_bytes := bytesOf_bounds machine.memory
  registers_length := length_bytesOf machine.registers
  registers_bytes := bytesOf_bounds machine.registers
  index_word := word_bounds machine.index
  counter_word := word_bounds machine.counter
  slots_length := length_wordsOf machine.stack.slots
  slots_words := wordsOf_bounds machine.stack.slots
  depth_bounds := ⟨Int.natCast_nonneg _, Int.ofNat_le.mpr wellFormed.depth_le⟩
  delay_byte := byte_bounds machine.delay
  sound_byte := byte_bounds machine.sound
  keys_real := by
    intro number member
    obtain ⟨key, inside, _, rfl⟩ := Keypad.mem_numbers.mp member
    omega
  width_eq := rfl
  height_eq := rfl
  rows_length := by
    show (machine.screen.pixels.toList.map Vector.toList).length = 32
    rw [List.length_map, Vector.length_toList]
    rfl
  columns_length := by
    intro row member
    obtain ⟨strip, _, rfl⟩ := List.mem_map.mp member
    exact strip.length_toList
  program_length := wellFormed.program_le

/-! ## Well-formed raw machines are machines written out -/

theorem exists_byte {value : Int} (bounds : 0 ≤ value ∧ value ≤ 255) :
    ∃ byte : Byte, (byte.toNat : Int) = value := by
  refine ⟨Byte.ofInt value, ?_⟩
  rw [Byte.toNat_ofInt]
  omega

theorem exists_word {value : Int} (bounds : 0 ≤ value ∧ value ≤ 0xFFFF) :
    ∃ word : Word, (word.toNat : Int) = value := by
  refine ⟨Word.ofInt value, ?_⟩
  rw [Word.toNat_ofInt]
  omega

/-- A list whose members all have a source is written out from a block of sources. -/
theorem exists_block {α β : Type} {written : α → β} {count : Nat} {cells : List β}
    (length : cells.length = count) (sources : ∀ cell ∈ cells, ∃ source, written source = cell) :
    ∃ block : Vector α count, block.toList.map written = cells := by
  have written_out : cells ∈ Set.range (List.map written) := by
    rw [Set.range_list_map]
    exact sources
  obtain ⟨block, rfl⟩ := written_out
  rw [List.length_map] at length
  exact ⟨⟨block.toArray, length⟩, rfl⟩

theorem exists_keypad {keys : Finset Int} (real : ∀ key ∈ keys, 0 ≤ key ∧ key ≤ 15) :
    ∃ keypad : Keypad, keypad.numbers = keys := by
  refine ⟨Vector.ofFn fun key : Fin 16 => decide ((key.val : Int) ∈ keys), ?_⟩
  ext number
  rw [Keypad.mem_numbers]
  constructor
  · rintro ⟨key, inside, held, rfl⟩
    simpa using held
  · intro member
    obtain ⟨least, most⟩ := real number member
    have small : number.toNat < 16 := by omega
    have same : ((number.toNat : Nat) : Int) = number := Int.toNat_of_nonneg least
    exact ⟨number.toNat, small, by simpa [same] using member, same⟩

theorem exists_screen {screen : RawScreen} (width : screen.width = 64) (height : screen.height = 32)
    (rows : screen.pixels.length = 32) (columns : ∀ row ∈ screen.pixels, row.length = 64) :
    ∃ display : Display 64 32, display.toRaw = screen := by
  have strips : ∀ row ∈ screen.pixels, ∃ strip : Vector Bool 64, strip.toList = row := by
    intro row member
    have sources : ∀ lit ∈ row, ∃ source : Bool, id source = lit := fun lit _ => ⟨lit, rfl⟩
    obtain ⟨strip, same⟩ := exists_block (columns row member) sources
    exact ⟨strip, by rwa [List.map_id] at same⟩
  obtain ⟨pixels, same⟩ := exists_block rows strips
  refine ⟨⟨pixels, screen.redraw⟩, ?_⟩
  cases screen
  cases width
  cases height
  exact congrArg (fun pixels => RawScreen.mk 64 32 pixels _) same

/-- The types of a machine leave room for well-formed raw machines and no others. -/
theorem RawMachine.wellFormed_iff {raw : RawMachine} :
    raw.WellFormed ↔ ∃ machine : Machine, machine.WellFormed ∧ machine.toRaw = raw := by
  constructor
  · intro wellFormed
    have bytes {cells : List Int} (bounds : ∀ cell ∈ cells, 0 ≤ cell ∧ cell ≤ 255) :
        ∀ cell ∈ cells, ∃ byte : Byte, (byte.toNat : Int) = cell :=
      fun cell member => exists_byte (bounds cell member)
    have words {cells : List Int} (bounds : ∀ cell ∈ cells, 0 ≤ cell ∧ cell ≤ 0xFFFF) :
        ∀ cell ∈ cells, ∃ word : Word, (word.toNat : Int) = cell :=
      fun cell member => exists_word (bounds cell member)
    obtain ⟨memory, memory_eq⟩ :=
      exists_block wellFormed.memory_length (bytes wellFormed.memory_bytes)
    obtain ⟨registers, registers_eq⟩ :=
      exists_block wellFormed.registers_length (bytes wellFormed.registers_bytes)
    obtain ⟨slots, slots_eq⟩ :=
      exists_block wellFormed.slots_length (words wellFormed.slots_words)
    obtain ⟨index, index_eq⟩ := exists_word wellFormed.index_word
    obtain ⟨counter, counter_eq⟩ := exists_word wellFormed.counter_word
    obtain ⟨delay, delay_eq⟩ := exists_byte wellFormed.delay_byte
    obtain ⟨sound, sound_eq⟩ := exists_byte wellFormed.sound_byte
    obtain ⟨keypad, keypad_eq⟩ := exists_keypad wellFormed.keys_real
    obtain ⟨screen, screen_eq⟩ := exists_screen wellFormed.width_eq wellFormed.height_eq
      wellFormed.rows_length wellFormed.columns_length
    obtain ⟨shallow, bounded⟩ := wellFormed.depth_bounds
    have depth_eq : ((raw.depth.toNat : Nat) : Int) = raw.depth := Int.toNat_of_nonneg shallow
    have program_le := wellFormed.program_length
    refine ⟨{
      memory := memory
      registers := registers
      index := index
      counter := counter
      stack := ⟨slots, raw.depth.toNat⟩
      delay := delay
      sound := sound
      keypad := keypad
      screen := screen
      tick := raw.tick
      random := raw.random
      program := raw.program
      settings := raw.settings
      last := raw.last }, ⟨?_, program_le⟩, ?_⟩
    · show raw.depth.toNat ≤ 16
      omega
    · -- field by field, each equation is one of those above
      cases raw
      simp only [Machine.toRaw, bytesOf, wordsOf] at *
      simp only [memory_eq, registers_eq, slots_eq, index_eq, counter_eq, delay_eq, sound_eq,
        keypad_eq, screen_eq, depth_eq]
  · rintro ⟨machine, wellFormed, rfl⟩
    exact wellFormed.toRaw

/-! ## No command leaves the ranges -/

/-- A machine built from a program that fits is well-formed, and so it stays under all
commands in any order, those that fail included. Nothing but the typed machine is ever
written out in it. -/
theorem RawMachine.wellFormed_after_build (settings : Settings) (random : Twister)
    {program : List Byte} (fits : program.length ≤ programLimit) (commands : List Command) :
    ∃ start, RawMachine.build settings random program = .ok () start ∧
      (start.after commands).WellFormed ∧
      start.after commands =
        ((Machine.build settings random program).machine.after commands).toRaw := by
  have built := build_eq settings random program
  have wellFormed := Machine.wellFormed_build settings random program
  refine ⟨(Machine.build settings random program).machine.toRaw, ?_, ?_, ?_⟩
  · rw [built, Machine.build]
    split
    · rfl
    · rw [Machine.load, if_pos fits]
      rfl
  · rw [after_toRaw wellFormed]
    exact (wellFormed.after commands).toRaw
  · exact after_toRaw wellFormed commands

/-- A refused store, a push, a refused key, a step, an operation that does not exist and a step. -/
theorem RawMachine.wellFormed_after_refusals :
    ∃ start,
      RawMachine.build {} ⟨Vector.replicate 624 0, 624⟩ [0x60, 0x05, 0xF0, 0x29] =
        .ok () start ∧
      (start.after [.writeByte 4096 300, .push 70000, .setKey 16 true, .step,
        .exec 0x9999 0xFFFF, .step]).WellFormed := by
  have fits : ([0x60, 0x05, 0xF0, 0x29] : List Byte).length ≤ programLimit := by decide
  obtain ⟨start, built, wellFormed, _⟩ := wellFormed_after_build {} ⟨Vector.replicate 624 0, 624⟩
    fits [.writeByte 4096 300, .push 70000, .setKey 16 true, .step, .exec 0x9999 0xFFFF, .step]
  exact ⟨start, built, wellFormed⟩

end Chip8
