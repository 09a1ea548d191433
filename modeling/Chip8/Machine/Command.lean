/-
# What a host can tell a machine

A host drives a machine by commands and gets replies. Commands may carry any
numbers: the machine checks or cuts what it is given. Apart from commands a host
can assign registers, timers and the tick directly.
-/

import Chip8.Machine.Run

namespace Chip8

/-- A command to a machine. -/
inductive Command where
  /-- Do one instruction. -/
  | step
  /-- Run to a tick. -/
  | run (limit : Int) (pace : Pace)
  /-- Do the operation whose word is `code` with the operands of `word`. -/
  | exec (code : Int) (word : Word)
  /-- Let one timer period pass. -/
  | tickTimers
  /-- A key was pressed or released. -/
  | setKey (key : Int) (pressed : Bool)
  /-- Load a program. -/
  | load (program : List Byte)
  /-- Go back to power-on. -/
  | reset
  /-- Read one byte. -/
  | readByte (address : Int)
  /-- Write the low bits of a value. -/
  | writeByte (address value : Int)
  /-- Read a block. -/
  | readBlock (address length : Int)
  /-- Write the low bits of values. -/
  | writeBlock (address : Int) (values : List Int)
  /-- Read an instruction word. -/
  | fetchWord (address : Int)
  /-- Push onto the return stack. -/
  | push (value : Int)
  /-- Pop off the return stack. -/
  | pop
  /-- Ask for the lowest held key. -/
  | heldKey
  /-- Ask whether the sound is on. -/
  | soundOn
  /-- The screen was shown. -/
  | clearRedraw
  /-- Ask for the screen as text. -/
  | render
  deriving Repr

/-- What a machine answers to a command. -/
inductive Reply where
  /-- There is nothing to say. -/
  | done
  /-- How a step left the machine. -/
  | status (status : Status)
  /-- How a run ended. -/
  | ended (ending : RunEnd)
  /-- A byte. -/
  | byte (value : Byte)
  /-- A word. -/
  | word (value : Word)
  /-- Several bytes. -/
  | bytes (values : List Byte)
  /-- A key, if one is held. -/
  | key (key : Option (Fin 16))
  /-- Yes or no. -/
  | flag (value : Bool)
  /-- A text. -/
  | text (value : String)
  deriving DecidableEq, Repr

/-- The same outcome with its result put into other words. -/
def Outcome.map {α β : Type} (f : α → β) (outcome : Outcome α) : Outcome β :=
  ⟨outcome.result.map f, outcome.machine, outcome.events⟩

namespace Machine

/-- An answer that depends on the machine and leaves it as it is. -/
def reply (machine : Machine) (result : Except Fault Reply) : Outcome Reply :=
  ⟨result, machine, []⟩

/-- Take over a changed memory, or pass on the fault. -/
def takeMemory (machine : Machine) : Except Fault Memory → Outcome Reply
  | .ok memory => ⟨.ok .done, { machine with memory := memory }, []⟩
  | .error fault => ⟨.error fault, machine, []⟩

/-- Obey a command. -/
def perform (command : Command) (machine : Machine) : Outcome Reply :=
  match command with
  | .step => machine.step.map .status
  | .run limit pace => (machine.run limit pace).map .ended
  | .exec code word => (machine.execCode code word).map .status
  | .tickTimers => machine.tickTimers.map fun _ => .done
  | .setKey key pressed => (machine.setKey key pressed).map fun _ => .done
  | .load program => (machine.load program).map fun _ => .done
  | .reset => ⟨.ok .done, machine.reset, []⟩
  | .readByte address => machine.reply ((machine.memory.read address).map .byte)
  | .writeByte address value =>
    machine.takeMemory (machine.memory.write address (Byte.ofInt value))
  | .readBlock address length =>
    machine.reply ((machine.memory.readBlock address length).map .bytes)
  | .writeBlock address values =>
    machine.takeMemory (machine.memory.writeBlock address (values.map Byte.ofInt))
  | .fetchWord address => machine.reply ((machine.memory.fetch address).map .word)
  | .push value => (machine.push value).map fun _ => .done
  | .pop => machine.pop.map .word
  | .heldKey => machine.reply (.ok (.key machine.keypad.lowest?))
  | .soundOn => machine.reply (.ok (.flag machine.soundOn))
  | .clearRedraw =>
    ⟨.ok .done, { machine with screen := machine.screen.clearRedraw }, []⟩
  | .render => machine.reply (.ok (.text (machine.screen.render "#" ".")))

end Machine

/-- A field that a host assigns directly. -/
inductive Assignment where
  /-- A register. -/
  | register (register : Fin 16) (value : Byte)
  /-- The index register. -/
  | index (value : Word)
  /-- The counter. -/
  | counter (value : Word)
  /-- The delay timer. -/
  | delay (value : Byte)
  /-- The sound timer. -/
  | sound (value : Byte)
  /-- The tick. -/
  | tick (value : Int)
  deriving DecidableEq, Repr

/-- Assign one field. -/
def Machine.assign (machine : Machine) : Assignment → Machine
  | .register register value => machine.setRegister register value
  | .index value => { machine with index := value }
  | .counter value => { machine with counter := value }
  | .delay value => { machine with delay := value }
  | .sound value => { machine with sound := value }
  | .tick value => { machine with tick := value }

end Chip8
