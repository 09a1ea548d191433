/-
# Running a raw machine

The operations, one instruction, a run, and the commands of a host, all on a
machine of plain integers. Every cut to a byte or a word stands where it is made,
and operations whose results need no cut make none: halving, the digits of a
number, the address of a glyph and the timers rely on their operands.

The counter moves on before the operation, so an operation that fails has a
counter already moved on; the count of a push and of a pop changes before or
after the slot is looked at, and a drawing clears its flag before it draws.
-/

import Chip8.Machine.Command
import Chip8.Proofs.Raw.Machine

namespace Chip8

/-- The fields of an instruction word as integers. -/
structure RawFields where
  x : Int
  y : Int
  nibble : Int
  immediate : Int
  address : Int

/-- The fields of the low sixteen bits of an integer. -/
def RawFields.ofInt (value : Int) : RawFields :=
  let word := value % 65536
  { x := word / 256 % 16
    y := word / 16 % 16
    nibble := word % 16
    immediate := word % 256
    address := word % 4096 }

namespace RawMachine

/-! ## Drawing -/

def pixelAt (row column : Int) : RawAction Bool := do
  let strip ← orFail .noCell (Cells.lookUp? (← get).screen.pixels row)
  orFail .noCell (Cells.lookUp? strip column)

def setPixel (row column : Int) (lit : Bool) : RawAction Unit := do
  let pixels := (← get).screen.pixels
  let strip ← orFail .noCell (Cells.lookUp? pixels row)
  let changed ← orFail .noCell (Cells.replace? strip column lit)
  let pixels ← orFail .noCell (Cells.replace? pixels row changed)
  modify fun machine => { machine with screen := { machine.screen with pixels := pixels } }

/-- Raise the redraw flag if something was touched. -/
def raiseRedraw (touched : Bool) : RawAction Unit :=
  if touched then
    modify fun machine => { machine with screen := { machine.screen with redraw := true } }
  else pure ()

/-- Lay one bit of a sprite row over a pixel of the screen's row `row`; say whether
a set bit has met a lit pixel so far. -/
def layBit (x row bits : Int) (collision : Bool) (bit : Nat) : RawAction Bool := do
  let column ← remainder (x + bit) (← get).screen.width
  let set := bits / 2 ^ (7 - bit) % 2 == 1
  let old ← pixelAt row column
  raiseRedraw (set || old)
  setPixel row column (old != set)
  return collision || (set && old)

/-- Draw the rows of a sprite, of which the first is row number `count`. -/
def layRows (x y : Int) (collision : Bool) (count : Nat) : List Int → RawAction Bool
  | [] => return collision
  | bits :: rest => do
    let row ← remainder (y + count) (← get).screen.height
    let _ ← orFail .noCell (Cells.lookUp? (← get).screen.pixels row)
    let met ← (List.range 8).foldlM (layBit x row bits) collision
    layRows x y met (count + 1) rest

def drawSprite (x y rows : Int) : RawAction Unit := do
  let sprite ← readBlock (← get).index rows
  setRegister 15 0
  if ← layRows x y false 0 sprite then setRegister 15 1

/-! ## Operations -/

def jump (target : Int) : RawAction Unit :=
  modify fun machine => { machine with counter := target }

def skipIf (condition : Bool) : RawAction Unit := do
  if condition then jump (((← get).counter + 2) % 65536)

/-- Go to the address on top of the return stack and take it off. -/
def goBack : RawAction Unit := do
  jump (← pop)

/-- Go to an address and put the way back on top of the return stack. -/
def goAndRemember (target : Int) : RawAction Unit := do
  push (← get).counter
  jump target

def setWithFlag (position value : Int) (flag : Int) : RawAction Unit := do
  setRegister position value
  setRegister 15 flag

def pointAt (address : Int) : RawAction Unit :=
  modify fun machine => { machine with index := address }

def drawByte (position mask : Int) : RawAction Unit := do
  let (byte, rest) := (← get).random.nextByte
  modify fun machine => { machine with random := rest }
  setRegister position (Int.land byte.toNat mask)

def storeAtIndex (values : List Int) : RawAction Unit := do
  writeBlock (← get).index values

/-- Replace the first registers by bytes of memory. -/
def loadRegisters (count : Int) : RawAction Unit := do
  let bytes ← readBlock (← get).index count
  modify fun machine =>
    { machine with registers := Cells.splice machine.registers 0 count bytes }

/-- Put the lowest held key into a register, or go back to try again. -/
def takeKey (position : Int) : RawAction Status := do
  match (← get).heldKey with
  | some key =>
    setRegister position key
    return .running
  | none =>
    jump (((← get).counter - 2) % 65536)
    return .waiting

/-- Do one operation on fields and the values of the registers they name. -/
def perform (operation : Operation) (fields : RawFields) (vx vy : Int) : RawAction Unit := do
  match operation with
  -- flow control
  | .systemCall => pure ()
  | .clearScreen => clearScreen
  | .ret => goBack
  | .jump => jump fields.address
  | .call => goAndRemember fields.address
  | .jumpOffset => jump ((fields.address + (← register 0)) % 65536)
  -- conditional skips
  | .skipIfByte => skipIf (vx == fields.immediate)
  | .skipUnlessByte => skipIf (vx != fields.immediate)
  | .skipIfSame => skipIf (vx == vy)
  | .skipUnlessSame => skipIf (vx != vy)
  | .skipIfHeld => skipIf (vx ∈ (← get).keys)
  | .skipUnlessHeld => skipIf (vx ∉ (← get).keys)
  -- immediate bytes
  | .loadByte => setRegister fields.x fields.immediate
  | .addByte => setRegister fields.x ((vx + fields.immediate) % 256)
  -- arithmetic on registers
  | .copy => setRegister fields.x vy
  | .bitOr => setRegister fields.x (Int.lor vx vy)
  | .bitAnd => setRegister fields.x (Int.land vx vy)
  | .bitXor => setRegister fields.x (Int.xor vx vy)
  | .add => setWithFlag fields.x ((vx + vy) % 256) (if vx + vy > 255 then 1 else 0)
  | .subtract => setWithFlag fields.x ((vx - vy) % 256) (if vx ≥ vy then 1 else 0)
  | .subtractFrom => setWithFlag fields.x ((vy - vx) % 256) (if vy ≥ vx then 1 else 0)
  | .shiftRight => setWithFlag fields.x (vx / 2) (vx % 2)
  | .shiftLeft =>
    setWithFlag fields.x (vx * 2 % 256)
      (if (← get).settings.shiftFlagFromLowBit then vx % 2 else vx / 128 % 2)
  -- the index register and memory
  | .loadIndex => pointAt fields.address
  | .advanceIndex => pointAt (((← get).index + vx) % 65536)
  | .pointAtGlyph => pointAt (vx * 5)
  | .storeDigits => storeAtIndex [vx / 100, vx / 10 % 10, vx % 10]
  | .storeRegisters => storeAtIndex (Cells.stretch (← get).registers 0 (fields.x + 1))
  | .loadRegisters => loadRegisters (fields.x + 1)
  -- random bytes and sprites
  | .random => drawByte fields.x fields.immediate
  | .draw => drawSprite vx vy fields.nibble
  -- timers
  | .readDelay => setRegister fields.x (← get).delay
  | .setDelay => modify fun machine => { machine with delay := vx }
  | .setSound => modify fun machine => { machine with sound := vx }
  -- waiting for a key has an answer of its own
  | .awaitKey => pure ()

/-- Do the operation whose word has a given value. -/
def exec (code : Int) (fields : RawFields) : RawAction Status := do
  let vx ← register fields.x
  let vy ← register fields.y
  match Operation.ofCode? code with
  | none => fail (.refused (.ofUnhandledCode code))
  | some .awaitKey => takeKey fields.x
  | some operation =>
    perform operation fields vx vy
    return .running

/-! ## Steps and runs -/

/-- Report the step just counted: its tick is written, unless the machine is quiet. -/
def report : RawAction Unit := do
  let machine ← get
  if machine.settings.quiet = true ∨ IsWritable machine.tick then pure ()
  else fail (.refused (.unwritable machine.tick))

def step : RawAction Status := do
  let origin := (← get).counter
  let value ← fetchWord origin
  match decode (Word.ofInt value) with
  | none => fail (.refused (.unknownWord (Word.ofInt value)))
  | some operation =>
    jump ((origin + 2) % 65536)
    let status ← exec operation.code.toNat (RawFields.ofInt value)
    modify fun machine => { machine with last := some operation }
    modify fun machine => { machine with tick := machine.tick + 1 }
    report
    return status

/-- How a run ends after a step from `origin`, if it ends. -/
def ending? (machine : RawMachine) (origin : Int) (status : Status) : Option RunEnd :=
  if status = .waiting then some .waiting
  else if machine.last = some .jump ∧ machine.counter = origin then some .halted
  else none

/-- A step, then the timers, then the question whether the run ends here. -/
def turn (ratio : Int) : RawAction (Option RunEnd) := do
  let origin := (← get).counter
  let status ← step
  if ratio = 0 then fail (.refused .zeroTimerRatio)
  else
    if (← get).tick.fmod ratio = 0 then tickTimers
    return (← get).ending? origin status

/-- Run while the tick is below a limit, for at most so many turns. -/
def runWhile (limit : Int) (pace : Pace) : Nat → RawAction RunEnd
  | 0 => return .stopped
  | turns + 1 => do
    if (← get).tick < limit then
      if pace.pauseTick = some (← get).tick then return .paused
      else
        match ← turn pace.stepsPerTimerTick with
        | some ending => return ending
        | none => runWhile limit pace turns
    else return .stopped

/-- Run until the tick reaches a limit. Every turn that does not end the run
raises the tick by one, so there are no more turns than ticks to go. -/
def run (limit : Int) (pace : Pace) : RawAction RunEnd := do
  runWhile limit pace (limit - (← get).tick).toNat

/-! ## Commands -/

/-- Obey a command; what it answers is left aside. -/
def obey (command : Command) : RawAction Unit :=
  match command with
  | .step => discard step
  | .run limit pace => discard (run limit pace)
  | .exec code word => discard (exec code (RawFields.ofInt word.toNat))
  | .tickTimers => tickTimers
  | .setKey key pressed => setKey key pressed
  | .load program => load program
  | .reset => reset
  | .readByte address => discard (readByte address)
  | .writeByte address value => writeByte address value
  | .readBlock address length => discard (readBlock address length)
  | .writeBlock address values => writeBlock address values
  | .fetchWord address => discard (fetchWord address)
  | .push value => push value
  | .pop => discard pop
  | .clearRedraw => clearRedraw
  | .heldKey | .soundOn | .render => pure ()

/-- The machine that an outcome leaves, whether it failed or not. -/
def left {α : Type} : EStateM.Result RawFault RawMachine α → RawMachine
  | .ok _ machine => machine
  | .error _ machine => machine

/-- The machine after commands, each obeyed as far as it goes. -/
def after (machine : RawMachine) (commands : List Command) : RawMachine :=
  commands.foldl (fun machine command => left ((obey command).run machine)) machine

end RawMachine

end Chip8
