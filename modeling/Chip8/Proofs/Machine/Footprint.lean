/-
# Where operations write

`Operation.writes` lists the parts of a machine that an operation may write. What
belongs to the host is no such part, because no operation writes it at all. The main
statements are that an operation leaves every other part as it is, whether it goes
through or meets a fault, and that a step does so too, but for the counter that it
moves on.
-/

import Chip8.Proofs.Machine.Step

namespace Chip8

/-- A part of a machine that some operation writes. -/
inductive Part where
  | memory
  | registers
  | index
  | counter
  | stack
  | delay
  | sound
  | screen
  | random
  deriving DecidableEq

/-- The parts that an operation may write. -/
def Operation.writes : Operation → List Part
  | systemCall => []
  | clearScreen => [.screen]
  | ret | call => [.stack, .counter]
  | jump | jumpOffset => [.counter]
  | skipIfByte | skipUnlessByte | skipIfSame | skipUnlessSame | skipIfHeld | skipUnlessHeld =>
    [.counter]
  | loadByte | addByte | copy | bitOr | bitAnd | bitXor | add | subtract | shiftRight
  | subtractFrom | shiftLeft | readDelay | loadRegisters => [.registers]
  | loadIndex | advanceIndex | pointAtGlyph => [.index]
  | storeDigits | storeRegisters => [.memory]
  | random => [.registers, .random]
  | draw => [.registers, .screen]
  | setDelay => [.delay]
  | setSound => [.sound]
  | awaitKey => [.registers, .counter]

namespace Machine

/-- A part is the same in two machines. -/
def Same (before after : Machine) : Part → Prop
  | .memory => after.memory = before.memory
  | .registers => after.registers = before.registers
  | .index => after.index = before.index
  | .counter => after.counter = before.counter
  | .stack => after.stack = before.stack
  | .delay => after.delay = before.delay
  | .sound => after.sound = before.sound
  | .screen => after.screen = before.screen
  | .random => after.random = before.random

theorem same_refl (machine : Machine) (part : Part) : machine.Same machine part := by
  cases part with
  | _ => rfl

variable (machine : Machine) {part : Part}

/-! ## Building blocks -/

theorem same_skipIf (condition : Bool) (unwritten : part ∉ [Part.counter]) :
    machine.Same (machine.skipIf condition) part := by
  cases condition with
  | false => exact same_refl machine part
  | true =>
    cases part with
    | counter => exact absurd (List.mem_singleton_self _) unwritten
    | _ => rfl

theorem same_goBack (unwritten : part ∉ [Part.stack, Part.counter]) :
    machine.Same machine.goBack.machine part := by
  rw [goBack]
  rcases machine.stack.pop with fault | ⟨target, stack⟩
  · exact same_refl machine part
  · cases part with
    | stack | counter => exact absurd (by decide) unwritten
    | _ => rfl

theorem same_goAndRemember (target : Word) (unwritten : part ∉ [Part.stack, Part.counter]) :
    machine.Same (machine.goAndRemember target).machine part := by
  rw [goAndRemember]
  cases machine.stack.push machine.counter.toNat with
  | error fault => exact same_refl machine part
  | ok stack =>
    cases part with
    | stack | counter => exact absurd (by decide) unwritten
    | _ => rfl

theorem same_takeKey (register : Fin 16) (unwritten : part ∉ [Part.registers, Part.counter]) :
    machine.Same (machine.takeKey register).machine part := by
  rw [takeKey]
  cases machine.keypad.lowest? with
  | none =>
    cases part with
    | counter => exact absurd (by decide) unwritten
    | _ => rfl
  | some key =>
    cases part with
    | registers => exact absurd (by decide) unwritten
    | _ => rfl

theorem same_storeAtIndex (bytes : List Byte) (unwritten : part ∉ [Part.memory]) :
    machine.Same (machine.storeAtIndex bytes).machine part := by
  rw [storeAtIndex]
  cases machine.memory.writeBlock machine.index.toNat bytes with
  | error fault => exact same_refl machine part
  | ok memory =>
    cases part with
    | memory => exact absurd (List.mem_singleton_self _) unwritten
    | _ => rfl

theorem same_registers (registers : Vector Byte 16) (unwritten : part ∉ [Part.registers]) :
    machine.Same { machine with registers := registers } part := by
  cases part with
  | registers => exact absurd (List.mem_singleton_self _) unwritten
  | _ => rfl

theorem same_loadAtIndex (count : Nat) (unwritten : part ∉ [Part.registers]) :
    machine.Same (machine.loadAtIndex count).machine part := by
  rw [loadAtIndex]
  cases machine.memory.readBlock machine.index.toNat count with
  | error fault => exact same_refl machine part
  | ok bytes => exact same_registers machine (replaceFirst machine.registers bytes) unwritten

theorem same_drawSprite (x y : Byte) (rows : Nat)
    (unwritten : part ∉ [Part.registers, Part.screen]) :
    machine.Same (machine.drawSprite x y rows).machine part := by
  rw [drawSprite]
  cases machine.memory.readBlock machine.index.toNat rows with
  | error fault => exact same_refl machine part
  | ok sprite =>
    cases part with
    | registers | screen => exact absurd (by decide) unwritten
    | _ => rfl

/-! ## Operations -/

/-- An operation leaves alone whatever it does not write. -/
theorem same_exec {operation : Operation} (word : Word) (unwritten : part ∉ operation.writes) :
    machine.Same (exec operation word machine).machine part := by
  cases operation with
  | skipIfByte | skipUnlessByte | skipIfSame | skipUnlessSame | skipIfHeld | skipUnlessHeld =>
    exact same_skipIf machine _ unwritten
  | ret => exact same_goBack machine unwritten
  | call => exact same_goAndRemember machine word.address unwritten
  | awaitKey => exact same_takeKey machine word.x unwritten
  | storeDigits | storeRegisters => exact same_storeAtIndex machine _ unwritten
  | loadRegisters => exact same_loadAtIndex machine _ unwritten
  | draw => exact same_drawSprite machine _ _ _ unwritten
  | _ =>
    -- the others write outright what is listed for them
    cases part with
    | _ => first | exact absurd (by decide) unwritten | rfl

theorem same_movedOn (apart : part ≠ .counter) : machine.Same machine.movedOn part := by
  cases part with
  | counter => exact absurd rfl apart
  | _ => rfl

/-- A step leaves alone whatever its operation does not write, the counter apart. -/
theorem same_step (apart : part ≠ .counter)
    (unwritten : ∀ operation, machine.Next operation → part ∉ operation.writes) :
    machine.Same machine.step.machine part := by
  rcases machine_step machine with same | moved | ⟨operation, next, done⟩
  · rw [same]
    exact same_refl machine part
  · rw [moved]
    exact same_movedOn machine apart
  · have kept := same_exec machine.movedOn machine.nextWord (unwritten operation next)
    rw [done]
    cases part with
    | counter => exact absurd rfl apart
    | _ => exact kept

/-- A step that meets a fault of the machine leaves alone everything but the counter. -/
theorem same_step_of_machineFault (apart : part ≠ .counter) {fault : Fault}
    (failed : machine.step.result = .error fault) (machineFault : fault.isMachineFault = true) :
    machine.Same machine.step.machine part := by
  rcases step_beginnings machine with past | ⟨inside, unknown⟩ | ⟨operation, next⟩
  · rw [step_of_past machine past]
    exact same_refl machine part
  · rw [step_of_unknown machine inside unknown]
    exact same_refl machine part
  · rw [machine_step_of_machineFault next failed machineFault]
    exact same_movedOn machine apart

end Machine

end Chip8
