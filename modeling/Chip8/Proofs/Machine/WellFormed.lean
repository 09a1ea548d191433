/-
# What the types of a machine leave open

Most of what must hold of a machine's cells is a matter of their types. Two things
are not: the depth of the return stack is a number of its own, and the remembered
program is a list. That the stack is no deeper than its slots and the program no
longer than its room holds at power-on and is kept by every command, obeyed or
refused.
-/

import Chip8.Machine.Command
import Chip8.Proofs.Machine.Run
import Chip8.Proofs.Machine.Step

namespace Chip8.Machine

/-- The stack is no deeper than its slots and the program fits. -/
structure WellFormed (machine : Machine) : Prop where
  depth_le : machine.stack.depth ≤ 16
  program_le : machine.program.length ≤ programLimit

namespace WellFormed

variable {machine : Machine} (wellFormed : machine.WellFormed)

include wellFormed

theorem step : machine.step.machine.WellFormed where
  depth_le := depth_step machine wellFormed.depth_le
  program_le := by
    rw [program_step]
    exact wellFormed.program_le

theorem tickTimers : machine.tickTimers.machine.WellFormed :=
  ⟨wellFormed.depth_le, wellFormed.program_le⟩

theorem run (limit : Int) (pace : Pace) : (machine.run limit pace).machine.WellFormed :=
  run_preserves WellFormed (fun _ kept => kept.step) (fun _ kept => kept.tickTimers) limit pace
    wellFormed

theorem exec (operation : Operation) (word : Word) :
    (exec operation word machine).machine.WellFormed where
  depth_le := depth_exec machine word wellFormed.depth_le
  program_le := by
    have same : (Machine.exec operation word machine).machine.program = machine.program :=
      congrArg HostPart.program (hostPart_exec machine word)
    rw [same]
    exact wellFormed.program_le

theorem execCode (code : Int) (word : Word) :
    (machine.execCode code word).machine.WellFormed := by
  unfold Machine.execCode
  cases Operation.ofCode? code with
  | none => exact wellFormed
  | some operation => exact wellFormed.exec operation word

theorem setKey (key : Int) (pressed : Bool) :
    (machine.setKey key pressed).machine.WellFormed := by
  unfold Machine.setKey
  cases machine.keypad.put key pressed with
  | error fault => exact wellFormed
  | ok keypad => exact ⟨wellFormed.depth_le, wellFormed.program_le⟩

/-- Only a program that fits is remembered. -/
theorem load (program : List Byte) : (machine.load program).machine.WellFormed := by
  unfold Machine.load
  by_cases fits : program.length ≤ programLimit
  · rw [if_pos fits]
    exact ⟨wellFormed.depth_le, fits⟩
  · rw [if_neg fits]
    exact wellFormed

theorem reset : machine.reset.WellFormed :=
  ⟨Nat.zero_le 16, wellFormed.program_le⟩

theorem takeMemory (memory : Except Fault Memory) :
    (machine.takeMemory memory).machine.WellFormed := by
  cases memory with
  | error fault => exact wellFormed
  | ok memory => exact ⟨wellFormed.depth_le, wellFormed.program_le⟩

theorem push (value : Int) : (machine.push value).machine.WellFormed := by
  unfold Machine.push
  cases pushed : machine.stack.push value with
  | error fault => exact wellFormed
  | ok stack =>
    obtain ⟨free, deeper⟩ := ReturnStack.depth_push pushed
    exact ⟨Nat.le_trans (Nat.le_of_eq deeper) free, wellFormed.program_le⟩

theorem pop : machine.pop.machine.WellFormed := by
  unfold Machine.pop
  rcases popped : machine.stack.pop with fault | ⟨value, stack⟩
  · exact wellFormed
  · obtain ⟨_, shallower, _⟩ := ReturnStack.pop_eq_ok popped
    have less : stack.depth ≤ machine.stack.depth := by
      rw [shallower]
      exact Nat.le_succ stack.depth
    exact ⟨Nat.le_trans less wellFormed.depth_le, wellFormed.program_le⟩

theorem perform (command : Command) : (perform command machine).machine.WellFormed := by
  cases command with
  | step => exact wellFormed.step
  | run limit pace => exact wellFormed.run limit pace
  | exec code word => exact wellFormed.execCode code word
  | tickTimers => exact wellFormed.tickTimers
  | setKey key pressed => exact wellFormed.setKey key pressed
  | load program => exact wellFormed.load program
  | reset => exact wellFormed.reset
  | writeByte address value => exact wellFormed.takeMemory _
  | writeBlock address values => exact wellFormed.takeMemory _
  | push value => exact wellFormed.push value
  | pop => exact wellFormed.pop
  | clearRedraw => exact ⟨wellFormed.depth_le, wellFormed.program_le⟩
  | readByte | readBlock | fetchWord | heldKey | soundOn | render => exact wellFormed

end WellFormed

theorem wellFormed_powerOn (settings : Settings) (random : Twister) :
    (powerOn settings random).WellFormed :=
  ⟨Nat.zero_le 16, Nat.zero_le programLimit⟩

theorem wellFormed_build (settings : Settings) (random : Twister) (program : List Byte) :
    (build settings random program).machine.WellFormed := by
  have on := wellFormed_powerOn settings random
  rw [build]
  split
  · exact on
  · exact on.load program

/-- A machine with a program and no font, whose random words are all zero. -/
def bare (program : List Byte) : Machine :=
  (build { loadFont := false } ⟨Vector.replicate 624 0, 624⟩ program).machine

theorem wellFormed_bare (program : List Byte) : (bare program).WellFormed :=
  wellFormed_build _ _ program

/-! ## Sequences of commands -/

/-- The machine after commands, each obeyed as far as it goes. -/
def after (machine : Machine) (commands : List Command) : Machine :=
  commands.foldl (fun machine command => (perform command machine).machine) machine

theorem WellFormed.after {machine : Machine} (wellFormed : machine.WellFormed)
    (commands : List Command) : (machine.after commands).WellFormed := by
  induction commands generalizing machine with
  | nil => exact wellFormed
  | cons command rest ih => exact ih (wellFormed.perform command)

end Chip8.Machine
