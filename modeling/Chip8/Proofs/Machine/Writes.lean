/-
# Which cells an instruction writes

`Operation.writes` tells parts of a machine. Of memory and of the registers an instruction
writes only some cells, and which ones depends on its word and on the index register.
`WritesCell` and `WritesRegister` list them for each operation.

The main statement is the footprint of a step that goes through: what it may have changed,
part by part, and cell by cell within memory and the registers. Nothing in it is said of the
values that are written. The counter moves on with every instruction, whatever its operation
writes, and that is all that changes apart from the lists.
-/

import Chip8.Proofs.Machine.Footprint
import Chip8.Proofs.Memory
import Chip8.Proofs.Raw.Simulation.Run
import Chip8.Proofs.Run.Turn

namespace Chip8

namespace Operation

/-- The registers that an operation may write. -/
def WritesRegister (word : Word) (register : Fin 16) : Operation → Prop
  | loadByte | addByte | copy | bitOr | bitAnd | bitXor | random | readDelay | awaitKey =>
    register = word.x
  | add | subtract | subtractFrom | shiftRight | shiftLeft => register = word.x ∨ register = 15
  | draw => register = 15
  | loadRegisters => register ≤ word.x
  | _ => False

/-- The memory cells that an operation may write. -/
def WritesCell (word : Word) (index : Word) (address : Nat) : Operation → Prop
  | storeDigits => index.toNat ≤ address ∧ address ≤ index.toNat + 2
  | storeRegisters => index.toNat ≤ address ∧ address ≤ index.toNat + word.x.val
  | _ => False

end Operation

/-- The operations that may write a part. -/
def Part.writers : Part → List Operation
  | .memory => [.storeDigits, .storeRegisters]
  | .registers =>
    [.loadByte, .addByte, .copy, .bitOr, .bitAnd, .bitXor, .add, .subtract, .shiftRight,
      .subtractFrom, .shiftLeft, .random, .draw, .readDelay, .awaitKey, .loadRegisters]
  | .index => [.loadIndex, .advanceIndex, .pointAtGlyph]
  | .counter =>
    [.jump, .jumpOffset, .call, .ret, .skipIfByte, .skipUnlessByte, .skipIfSame,
      .skipUnlessSame, .skipIfHeld, .skipUnlessHeld, .awaitKey]
  | .stack => [.call, .ret]
  | .delay => [.setDelay]
  | .sound => [.setSound]
  | .screen => [.clearScreen, .draw]
  | .random => [.random]

/-- The list by parts is the list by operations, read the other way. -/
theorem Part.mem_writers_iff (part : Part) (operation : Operation) :
    operation ∈ part.writers ↔ part ∈ operation.writes := by
  cases part with
  | _ =>
    cases operation with
    | _ => decide

namespace Machine

variable (machine : Machine) (word : Word) {operation : Operation} {register : Fin 16}
  {address : Nat}

/-! ## Registers -/

theorem register_setRegister {target : Fin 16} (value : Byte) (apart : register ≠ target) :
    (machine.setRegister target value).registers.get register = machine.registers.get register := by
  have places : target.val ≠ register.val := fun same => apart (Fin.ext same.symm)
  exact Vector.getElem_set_ne target.isLt register.isLt places

theorem register_setWithFlag {target : Fin 16} (value flag : Byte)
    (apart : ¬ (register = target ∨ register = 15)) :
    (machine.setWithFlag target value flag).registers.get register =
      machine.registers.get register := by
  obtain ⟨other, plain⟩ := not_or.mp apart
  have written := register_setRegister (machine.setRegister target value) flag plain
  exact written.trans (register_setRegister machine value other)

theorem register_takeKey {target : Fin 16} (apart : register ≠ target) :
    (machine.takeKey target).machine.registers.get register = machine.registers.get register := by
  rw [takeKey]
  cases machine.keypad.lowest? with
  | none => rfl
  | some key => exact register_setRegister machine _ apart

/-- A block from memory takes the place of as many registers as it is long. -/
theorem register_loadAtIndex {count : Nat} (behind : count ≤ register.val) :
    (machine.loadAtIndex count).machine.registers.get register =
      machine.registers.get register := by
  rw [loadAtIndex]
  cases read : machine.memory.readBlock machine.index.toNat count with
  | error fault => rfl
  | ok bytes =>
    have length := Memory.length_of_readBlock read
    show (replaceFirst machine.registers bytes)[register.val] = _
    rw [replaceFirst, Vector.getElem_ofFn]
    rw [← length] at behind
    rw [List.getD_eq_getElem?_getD, List.getElem?_eq_none behind, Option.getD_none]
    rfl

theorem register_drawSprite (x y : Byte) (rows : Nat) (apart : register ≠ 15) :
    (machine.drawSprite x y rows).machine.registers.get register =
      machine.registers.get register := by
  rw [drawSprite]
  cases machine.memory.readBlock machine.index.toNat rows with
  | error fault => rfl
  | ok sprite => exact register_setRegister machine _ apart

/-- An operation leaves alone the registers that are not listed for it. -/
theorem register_exec (unwritten : ¬ operation.WritesRegister word register) :
    (exec operation word machine).machine.registers.get register =
      machine.registers.get register := by
  cases operation with
  | loadByte | addByte | copy | bitOr | bitAnd | bitXor | random | readDelay =>
    exact register_setRegister machine _ unwritten
  | add | subtract | subtractFrom | shiftRight | shiftLeft =>
    exact register_setWithFlag machine _ _ unwritten
  | awaitKey => exact register_takeKey machine unwritten
  | draw => exact register_drawSprite machine _ _ _ unwritten
  | loadRegisters => exact register_loadAtIndex machine (Nat.lt_of_not_le unwritten)
  | _ =>
    refine congrArg (fun registers : Vector Byte 16 => registers.get register) ?_
    show machine.Same (exec _ word machine).machine .registers
    exact same_exec machine word (by decide)

/-! ## Memory -/

theorem byteAt_storeAtIndex {bytes : List Byte}
    (outside : ¬ (machine.index.toNat ≤ address ∧ address < machine.index.toNat + bytes.length)) :
    (machine.storeAtIndex bytes).machine.memory.byteAt address = machine.memory.byteAt address := by
  rw [storeAtIndex, Memory.writeBlock]
  split_ifs
  · show (machine.memory.overwrite _ bytes).byteAt address = _
    rw [Int.toNat_natCast]
    exact Memory.byteAt_overwrite_outside machine.memory (by omega)
  · rfl

/-- An operation leaves alone the memory cells that are not listed for it. -/
theorem byteAt_exec (unwritten : ¬ operation.WritesCell word machine.index address) :
    (exec operation word machine).machine.memory.byteAt address =
      machine.memory.byteAt address := by
  cases operation with
  | storeDigits =>
    apply byteAt_storeAtIndex
    rintro ⟨least, most⟩
    exact unwritten ⟨least, Nat.le_of_lt_succ most⟩
  | storeRegisters =>
    apply byteAt_storeAtIndex
    rintro ⟨least, most⟩
    rw [List.length_take] at most
    exact unwritten ⟨least, by omega⟩
  | _ =>
    refine congrArg (fun memory : Memory => memory.byteAt address) ?_
    show machine.Same (exec _ word machine).machine .memory
    exact same_exec machine word (by decide)

/-! ## The footprint of a step -/

/-- All that may differ after a step that goes through. -/
structure Footprint (operation : Operation) (before after : Machine) : Prop where
  tick : after.tick = before.tick + 1
  last : after.last = some operation
  memory : ∀ address : Nat, after.memory.byteAt address ≠ before.memory.byteAt address →
    operation.WritesCell before.nextWord before.index address
  registers : ∀ register : Fin 16, after.registers[register] ≠ before.registers[register] →
    operation.WritesRegister before.nextWord register
  index : after.index ≠ before.index → operation ∈ Part.index.writers
  delay : after.delay ≠ before.delay → operation ∈ Part.delay.writers
  sound : after.sound ≠ before.sound → operation ∈ Part.sound.writers
  stack : after.stack ≠ before.stack → operation ∈ Part.stack.writers
  screen : after.screen ≠ before.screen → operation ∈ Part.screen.writers
  random : after.random ≠ before.random → operation ∈ Part.random.writers
  keypad : after.keypad = before.keypad
  program : after.program = before.program
  settings : after.settings = before.settings
  counter : operation ∉ Part.counter.writers → after.counter = before.counter + 2

variable {machine}

/-- A part that a step has changed is one that its operation writes. -/
theorem Next.mem_writers (next : machine.Next operation) (part : Part) (apart : part ≠ .counter)
    (changed : ¬ machine.Same machine.step.machine part) : operation ∈ part.writers := by
  apply (Part.mem_writers_iff part operation).mpr
  by_contra unwritten
  apply changed
  apply same_step machine apart
  intro other also
  cases next.unique also
  exact unwritten

theorem Next.footprint {status : Status} (next : machine.Next operation)
    (went : machine.step.result = .ok status) :
    machine.Footprint operation machine.step.machine := by
  have left := machine_step_of_ok next went
  have host : (exec operation machine.nextWord machine.movedOn).machine.hostPart =
      machine.movedOn.hostPart := hostPart_exec machine.movedOn machine.nextWord
  exact
    { tick := tick_step_of_ok went
      last := congrArg Machine.last left
      memory := by
        intro address changed
        by_contra unwritten
        rw [left] at changed
        exact changed (byteAt_exec machine.movedOn machine.nextWord unwritten)
      registers := by
        intro register changed
        by_contra unwritten
        rw [left] at changed
        exact changed (register_exec machine.movedOn machine.nextWord unwritten)
      index := next.mem_writers .index (by decide)
      delay := next.mem_writers .delay (by decide)
      sound := next.mem_writers .sound (by decide)
      stack := next.mem_writers .stack (by decide)
      screen := next.mem_writers .screen (by decide)
      random := next.mem_writers .random (by decide)
      keypad := by
        rw [left]
        exact congrArg HostPart.keypad host
      program := program_step machine
      settings := by
        rw [left]
        exact congrArg HostPart.settings host
      counter := by
        intro unwritten
        rw [Part.mem_writers_iff] at unwritten
        rw [left]
        show machine.movedOn.Same (exec operation machine.nextWord machine.movedOn).machine .counter
        exact same_exec machine.movedOn machine.nextWord unwritten }

/-- A step that goes through does the operation of the word at the counter, and leaves
alone all that is not listed for it: the cells of memory and the registers one by one, and
every other part as a whole. Only the counter moves on even where it is not listed. A
machine of plain integers takes the same step. -/
theorem step_footprint {machine : Machine} (wellFormed : machine.WellFormed) {status : Status}
    (went : machine.step.result = .ok status) :
    ∃ operation, decode machine.nextWord = some operation ∧
      machine.Footprint operation machine.step.machine ∧
      RawMachine.step.run machine.toRaw = .ok status machine.step.machine.toRaw := by
  obtain ⟨operation, next⟩ := exists_next went
  refine ⟨operation, next.decoded, next.footprint went, ?_⟩
  rw [run_step machine wellFormed.depth_le, Outcome.toRaw, went]
  rfl

/-- Two registers stored over the instruction that stores them: the second byte of the word
may have changed, the byte behind it has not. -/
theorem step_footprint_of_store_over_itself :
    let machine := { bare [0xF1, 0x55] with index := 0x200 }
    machine.WellFormed ∧ machine.step.result = .ok .running ∧
      machine.step.machine.memory.byteAt 0x201 ≠ machine.memory.byteAt 0x201 ∧
      machine.step.machine.memory.byteAt 0x202 = machine.memory.byteAt 0x202 := by
  intro machine
  have wellFormed : machine.WellFormed := ⟨by decide, by decide⟩
  have went : machine.step.result = .ok .running := by decide +kernel
  refine ⟨wellFormed, went, by decide +kernel, ?_⟩
  obtain ⟨operation, decoded, footprint, _⟩ := step_footprint wellFormed went
  have stored : decode machine.nextWord = some .storeRegisters := by decide +kernel
  cases decoded.symm.trans stored
  by_contra changed
  obtain ⟨_, most⟩ := footprint.memory 0x202 changed
  exact absurd most (by decide +kernel)

/-- The counter is listed for no load of a register, and such a step moves it all the same. -/
theorem step_moves_unlisted_counter :
    let machine := bare [0x60, 0x05]
    machine.WellFormed ∧ machine.step.result = .ok .running ∧
      decode machine.nextWord = some .loadByte ∧ .loadByte ∉ Part.counter.writers ∧
      machine.step.machine.counter ≠ machine.counter := by
  exact ⟨wellFormed_bare _, by decide +kernel, by decide +kernel, by decide, by decide +kernel⟩

end Machine

end Chip8
