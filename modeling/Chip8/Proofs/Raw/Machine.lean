/-
# A machine of plain integers and lists

The types of a `Machine` keep every cell in its range and every block at its
length. A raw machine has no such types: its cells are integers of any size, its
blocks are lists of any length, and what an operation does not cut down to a
byte or a word stays as large as it is. Operations go forward one small change
after another, and where one of them fails, the changes before it remain.

So much more can go wrong. Besides the faults of a machine there are cells that
do not exist, memory cells that would hold no byte, words that are not made of two
bytes, and divisions by zero. That none of this ever happens, and that all cells
stay in their ranges, is not a matter of types here but of what operations do.

This module holds the raw machine and what a host can tell it besides running.
-/

import Chip8.Machine.Basic
import Chip8.Proofs.Raw.Cells
import Mathlib.Data.Finset.Max
import Mathlib.Data.Int.Bitwise

namespace Chip8

/-- What can go wrong on a raw machine. -/
inductive RawFault where
  /-- A fault that every machine knows. -/
  | refused (fault : Fault)
  /-- A position that names no cell. -/
  | noCell
  /-- A memory cell that would hold no byte. -/
  | notByte
  /-- A word that is not made of two bytes. -/
  | notWord
  /-- A division by zero. -/
  | zeroDivisor
  deriving DecidableEq, Repr

/-- A screen whose sides and rows can have any lengths. -/
structure RawScreen where
  /-- The number of columns that drawing counts with. -/
  width : Int
  /-- The number of rows that drawing counts with. -/
  height : Int
  pixels : List (List Bool)
  redraw : Bool

/-- The state of a machine without a bound on any number. -/
structure RawMachine where
  memory : List Int
  registers : List Int
  index : Int
  counter : Int
  slots : List Int
  depth : Int
  delay : Int
  sound : Int
  keys : Finset Int
  screen : RawScreen
  tick : Int
  random : Twister
  program : List Byte
  settings : Settings
  last : Option Operation

/-- A change of a raw machine that may fail on its way. -/
abbrev RawAction (α : Type) := EStateM RawFault RawMachine α

namespace RawMachine

/-! ## Single cells -/

def fail {α : Type} (fault : RawFault) : RawAction α :=
  fun machine => .error fault machine

/-- What there is, or a failure if there is nothing. -/
def orFail {α : Type} (fault : RawFault) : Option α → RawAction α
  | some value => pure value
  | none => fail fault

/-- The remainder that has the sign of the divisor. -/
def remainder (value divisor : Int) : RawAction Int :=
  if divisor = 0 then fail .zeroDivisor else pure (value.fmod divisor)

def register (position : Int) : RawAction Int := do
  orFail .noCell (Cells.lookUp? (← get).registers position)

def setRegister (position value : Int) : RawAction Unit := do
  let registers ← orFail .noCell (Cells.replace? (← get).registers position value)
  modify fun machine => { machine with registers := registers }

def store (position value : Int) : RawAction Unit := do
  let memory ← orFail .noCell (Cells.replace? (← get).memory position value)
  if 0 ≤ value ∧ value < 256 then modify fun machine => { machine with memory := memory }
  else fail .notByte

/-- Write the low eight bits of values to memory cells, one after another. -/
def storeFrom (position : Int) : List Int → RawAction Unit
  | [] => pure ()
  | value :: rest => do
    store position (value % 256)
    storeFrom (position + 1) rest

/-! ## Memory -/

/-- Refuse an access that does not lie in memory as a whole. -/
def checkRange (address length : Int) : RawAction Unit :=
  if address < 0 ∨ address + length > 4096 then
    fail (.refused (.outsideMemory address length))
  else pure ()

def readByte (address : Int) : RawAction Int := do
  checkRange address 1
  orFail .noCell (Cells.lookUp? (← get).memory address)

def writeByte (address value : Int) : RawAction Unit := do
  checkRange address 1
  store address (value % 256)

def readBlock (address length : Int) : RawAction (List Int) := do
  checkRange address length
  return Cells.stretch (← get).memory address (address + length)

def writeBlock (address : Int) (values : List Int) : RawAction Unit := do
  checkRange address values.length
  storeFrom address values

/-- Read an instruction word, its high byte first. -/
def fetchWord (address : Int) : RawAction Int := do
  checkRange address 2
  match Cells.stretch (← get).memory address (address + 2) with
  | [high, low] => return 256 * high + low
  | _ => fail .notWord

/-! ## The return stack, timers and keys -/

/-- Push the low sixteen bits of a value. -/
def push (value : Int) : RawAction Unit := do
  let depth := (← get).depth
  if depth ≥ 16 then fail (.refused (.stackFull value))
  else
    let slots ← orFail .noCell (Cells.replace? (← get).slots depth (value % 65536))
    modify fun machine => { machine with slots := slots }
    modify fun machine => { machine with depth := depth + 1 }

def pop : RawAction Int := do
  let depth := (← get).depth
  if depth ≤ 0 then fail (.refused .stackEmpty)
  else
    modify fun machine => { machine with depth := depth - 1 }
    orFail .noCell (Cells.lookUp? (← get).slots (depth - 1))

def tickTimers : RawAction Unit := do
  if (← get).delay > 0 then
    modify fun machine => { machine with delay := machine.delay - 1 }
  if (← get).sound > 0 then
    modify fun machine => { machine with sound := machine.sound - 1 }

def setKey (key : Int) (pressed : Bool) : RawAction Unit :=
  if 0 ≤ key ∧ key < 16 then
    modify fun machine =>
      { machine with keys := if pressed then insert key machine.keys else machine.keys.erase key }
  else fail (.refused (.noSuchKey key))

def heldKey (machine : RawMachine) : Option Int :=
  if held : machine.keys.Nonempty then some (machine.keys.min' held) else none

/-! ## Programs, power-on and the screen -/

/-- One row with its first cells dark. -/
def darken (width : Int) (row : List Bool) : Option (List Bool) :=
  if width ≤ row.length then some (List.replicate width.toNat false ++ row.drop width.toNat)
  else none

def clearScreen : RawAction Unit := do
  let screen := (← get).screen
  let pixels ← orFail .noCell (screen.pixels.mapM (darken screen.width))
  modify fun machine => { machine with screen := { screen with pixels := pixels, redraw := true } }

def clearRedraw : RawAction Unit :=
  modify fun machine => { machine with screen := { machine.screen with redraw := false } }

/-- Put bytes into memory in the place of those that are there. -/
def place (start : Nat) (bytes : List Byte) : RawAction Unit :=
  modify fun machine =>
    { machine with
      memory := Cells.splice machine.memory start (start + bytes.length)
        (bytes.map fun byte => (byte.toNat : Int)) }

def load (program : List Byte) : RawAction Unit :=
  if program.length > programLimit then fail (.refused (.programTooLarge program.length))
  else do
    place programStart program
    modify fun machine => { machine with program := program }

def placeIf (wanted : Bool) (start : Nat) (bytes : List Byte) : RawAction Unit :=
  if wanted then place start bytes else pure ()

/-- Memory at power-on: zeros, the font if wanted, and the remembered program. -/
def refill : RawAction Unit := do
  modify fun machine => { machine with memory := List.replicate 4096 0 }
  placeIf (← get).settings.loadFont 0 Font.glyphs
  let program := (← get).program
  placeIf (!program.isEmpty) programStart program

def zeroCells (machine : RawMachine) : RawMachine :=
  { machine with
    registers := List.replicate 16 0
    index := 0
    counter := programStart
    slots := List.replicate 16 0
    depth := 0
    delay := 0
    sound := 0
    keys := ∅ }

/-- Bring everything back to power-on, the remembered program in memory. -/
def reset : RawAction Unit := do
  refill
  modify zeroCells
  clearScreen
  clearRedraw
  modify fun machine => { machine with tick := 0 }

/-- A machine before power-on: nothing but what is decided and a dark screen. -/
def unpowered (settings : Settings) (random : Twister) : RawMachine :=
  { memory := []
    registers := []
    index := 0
    counter := 0
    slots := []
    depth := 0
    delay := 0
    sound := 0
    keys := ∅
    screen := ⟨64, 32, List.replicate 32 (List.replicate 64 false), false⟩
    tick := 0
    random := random
    program := []
    settings := settings
    last := none }

/-- Power on and load a program; an empty one is not loaded at all. -/
def powerOn (program : List Byte) : RawAction Unit := do
  reset
  if !program.isEmpty then load program

def build (settings : Settings) (random : Twister) (program : List Byte) :
    EStateM.Result RawFault RawMachine Unit :=
  (powerOn program).run (unpowered settings random)

end RawMachine

end Chip8
