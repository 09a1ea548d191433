/-
# The machine

A machine is everything that a later answer can depend on: memory, registers,
timers, the return stack, keys, screen, tick, the random stream, the program it
remembers, its settings, and the operation done last.

Host operations and steps share one form of answer. An `Outcome` holds a result
or a fault, the machine as it was left either way, and the events reported.
-/

import Chip8.Display
import Chip8.Font
import Chip8.Keypad
import Chip8.Machine.Event
import Chip8.Memory
import Chip8.Random.Twister
import Chip8.ReturnStack

namespace Chip8

/-- What is decided when a machine is built. -/
structure Settings where
  /-- The flag of a left shift is the lowest bit instead of the highest. -/
  shiftFlagFromLowBit : Bool := false
  /-- The font lies in memory. -/
  loadFont : Bool := true
  /-- Steps are not reported. -/
  quiet : Bool := false
  deriving DecidableEq, Repr

/-- The complete state of a machine. -/
structure Machine where
  /-- The memory cells. -/
  memory : Memory
  /-- The registers V0 to VF. -/
  registers : Vector Byte 16
  /-- The index register I. -/
  index : Word
  /-- The address of the next instruction. -/
  counter : Word
  /-- The return addresses. -/
  stack : ReturnStack
  /-- The delay timer. -/
  delay : Byte
  /-- The sound timer. -/
  sound : Byte
  /-- The held keys. -/
  keypad : Keypad
  /-- The screen. -/
  screen : Display 64 32
  /-- The number of steps done. -/
  tick : Int
  /-- The random stream. -/
  random : Twister
  /-- The program loaded last. -/
  program : List Byte
  /-- What was decided at the start. -/
  settings : Settings
  /-- The operation of the last step that went through. -/
  last : Option Operation

/-- What an operation answers, leaves and reports. -/
structure Outcome (α : Type) where
  /-- The answer, or the fault met. -/
  result : Except Fault α
  /-- The machine afterwards. -/
  machine : Machine
  /-- The events, in order. -/
  events : List Event

/-- Where programs start. -/
def programStart : Nat := 0x200

/-- The most bytes that fit from the start of programs to the end of memory. -/
def programLimit : Nat := 3584

namespace Machine

/-- Memory at power-on: zeros, the font if wanted, and a program. -/
def initialMemory (settings : Settings) (program : List Byte) : Memory :=
  let withFont := if settings.loadFont then Memory.zero.overwrite 0 Font.glyphs else Memory.zero
  withFont.overwrite programStart program

/-- Bring everything back to power-on, the remembered program in memory. The
random stream goes on where it is, and the last operation stays noted. -/
def reset (machine : Machine) : Machine :=
  { machine with
    memory := initialMemory machine.settings machine.program
    registers := Vector.replicate 16 0
    index := 0
    counter := UInt16.ofNat programStart
    stack := .empty
    delay := 0
    sound := 0
    keypad := .released
    screen := machine.screen.clear.clearRedraw
    tick := 0 }

/-- A machine at power-on without a program. -/
def powerOn (settings : Settings) (random : Twister) : Machine :=
  { memory := initialMemory settings []
    registers := Vector.replicate 16 0
    index := 0
    counter := UInt16.ofNat programStart
    stack := .empty
    delay := 0
    sound := 0
    keypad := .released
    screen := .blank 64 32
    tick := 0
    random := random
    program := []
    settings := settings
    last := none }

/-- Put a program into memory and remember it. Nothing else is cleared. -/
def load (machine : Machine) (program : List Byte) : Outcome Unit :=
  if program.length ≤ programLimit then
    { result := .ok ()
      machine :=
        { machine with
          memory := machine.memory.overwrite programStart program
          program := program }
      events := [.loaded program.length] }
  else ⟨.error (.programTooLarge program.length), machine, []⟩

/-- A new machine with a program. An empty program is not loaded at all. -/
def build (settings : Settings) (random : Twister) (program : List Byte) : Outcome Unit :=
  let machine := powerOn settings random
  if program.isEmpty then ⟨.ok (), machine, []⟩ else machine.load program

/-- Let one timer period pass. Timers stop at zero. -/
def tickTimers (machine : Machine) : Outcome Unit :=
  { result := .ok ()
    machine :=
      { machine with
        delay := if machine.delay = 0 then 0 else machine.delay - 1
        sound := if machine.sound = 0 then 0 else machine.sound - 1 }
    events := if machine.sound = 1 then [.soundExpired] else [] }

/-- Note that a key was pressed or released. -/
def setKey (machine : Machine) (key : Int) (pressed : Bool) : Outcome Unit :=
  match machine.keypad.put key pressed with
  | .ok keypad => ⟨.ok (), { machine with keypad := keypad }, []⟩
  | .error fault => ⟨.error fault, machine, []⟩

/-- Push a value onto the return stack. -/
def push (machine : Machine) (value : Int) : Outcome Unit :=
  match machine.stack.push value with
  | .ok stack => ⟨.ok (), { machine with stack := stack }, [.pushed value stack.depth]⟩
  | .error fault => ⟨.error fault, machine, []⟩

/-- Pop a value off the return stack. -/
def pop (machine : Machine) : Outcome Word :=
  match machine.stack.pop with
  | .ok (value, stack) => ⟨.ok value, { machine with stack := stack }, [.popped value stack.depth]⟩
  | .error fault => ⟨.error fault, machine, []⟩

/-- Whether the sound is on. -/
def soundOn (machine : Machine) : Bool :=
  0 < machine.sound

end Machine

end Chip8
