/-
# One instruction

A step fetches the word at the counter, decodes it, moves the counter on and
does the operation. A fault in fetching or decoding leaves the machine as it
was; a fault in the operation finds the counter already moved on. Either way the
tick stands still and the operation done last stays what it was.

A step that went through is counted and then reported with its tick, unless the
machine is quiet. A tick of too many digits cannot be written: the step is then
refused when it is over, and nothing of it is taken back.
-/

import Chip8.Machine.Exec
import Chip8.Operation.Decode

namespace Chip8.Machine

/-- What the machine looks like after a step from `origin`. -/
def snapshot (machine : Machine) (origin : Word) (status : Status) (operation : Operation)
    (word : Word) : Snapshot :=
  { tick := machine.tick
    origin := origin
    index := machine.index
    depth := machine.stack.depth
    delay := machine.delay
    sound := machine.sound
    registers := machine.registers
    status := status
    operation := operation
    word := word }

/-- The report of a step: a snapshot, unless the machine is quiet. -/
def stepReport (machine : Machine) (origin : Word) (status : Status) (operation : Operation)
    (word : Word) : List Event :=
  if machine.settings.quiet then [] else [.stepped (machine.snapshot origin status operation word)]

/-- A step that met a fault: the fault is reported with the tick and the address. -/
def stepFault (machine : Machine) (tick : Int) (origin : Word) (fault : Fault) : Outcome Status :=
  ⟨.error fault, machine, [.faulted tick origin fault]⟩

/-- Count a step that went through and note its operation. -/
def advance (machine : Machine) (operation : Operation) : Machine :=
  { machine with tick := machine.tick + 1, last := some operation }

/-- The tick can be reported: it can be written, or the machine is quiet and writes nothing. -/
def CanReport (machine : Machine) : Prop :=
  machine.settings.quiet = true ∨ IsWritable machine.tick

instance (machine : Machine) : Decidable machine.CanReport :=
  inferInstanceAs (Decidable (_ ∨ _))

/-- What a step comes to whose operation went through, leaving `machine`: it is counted and
reported. -/
def conclude (machine : Machine) (origin : Word) (status : Status) (operation : Operation)
    (word : Word) (events : List Event) : Outcome Status :=
  let after := machine.advance operation
  if after.CanReport then
    ⟨.ok status, after, events ++ after.stepReport origin status operation word⟩
  else ⟨.error (.unwritable after.tick), after, events⟩

/-- Fetch, decode and do one instruction. -/
def step (machine : Machine) : Outcome Status :=
  let tick := machine.tick
  let origin := machine.counter
  match machine.memory.fetch origin.toNat with
  | .error fault => machine.stepFault tick origin fault
  | .ok word =>
    match decode word with
    | none => machine.stepFault tick origin (.unknownWord word)
    | some operation =>
      match exec operation word { machine with counter := origin + 2 } with
      | ⟨.error fault, left, _⟩ => left.stepFault tick origin fault
      | ⟨.ok status, left, events⟩ => left.conclude origin status operation word events

end Chip8.Machine
