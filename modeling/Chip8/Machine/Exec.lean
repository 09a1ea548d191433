/-
# What each operation does

`exec` does one operation on the fields of a word. The counter already stands
behind the instruction. Results of arithmetic are written before the flag, so
the flag wins where both go to VF. An operation that meets a fault leaves the
machine as it was.
-/

import Chip8.Machine.Basic

namespace Chip8.Machine

/-! ## Building blocks -/

/-- The operation went through. -/
def goOn (machine : Machine) (events : List Event) : Outcome Status :=
  ⟨.ok .running, machine, events⟩

/-- The operation met a fault and did nothing. -/
def refuse (machine : Machine) (fault : Fault) : Outcome Status :=
  ⟨.error fault, machine, []⟩

/-- Write a register. -/
def setRegister (machine : Machine) (register : Fin 16) (value : Byte) : Machine :=
  { machine with registers := machine.registers.set register.val value register.isLt }

/-- Write a register and then the flag. -/
def setWithFlag (machine : Machine) (register : Fin 16) (value flag : Byte) : Machine :=
  { machine with
    registers := (machine.registers.set register.val value register.isLt).set 15 flag (by decide) }

/-- Skip the next instruction if a condition holds. -/
def skipIf (machine : Machine) (condition : Bool) : Machine :=
  if condition then { machine with counter := machine.counter + 2 } else machine

/-- Go to the address on top of the return stack and take it off. -/
def goBack (machine : Machine) : Outcome Status :=
  match machine.stack.pop with
  | .ok (target, stack) =>
    goOn { machine with stack := stack, counter := target } [.popped target stack.depth]
  | .error fault => machine.refuse fault

/-- Go to an address and put the way back on top of the return stack. -/
def goAndRemember (machine : Machine) (target : Word) : Outcome Status :=
  match machine.stack.push machine.counter.toNat with
  | .ok stack =>
    goOn { machine with stack := stack, counter := target }
      [.pushed machine.counter.toNat stack.depth]
  | .error fault => machine.refuse fault

/-- Put the lowest held key into a register, or go back to try again. -/
def takeKey (machine : Machine) (register : Fin 16) : Outcome Status :=
  match machine.keypad.lowest? with
  | some key => goOn (machine.setRegister register (UInt8.ofNat key.val)) [.keyTaken register key]
  | none => ⟨.ok .waiting, { machine with counter := machine.counter - 2 }, []⟩

/-- Put a random byte into a register, masked. -/
def drawByte (machine : Machine) (register : Fin 16) (mask : Byte) : Outcome Status :=
  let (byte, rest) := machine.random.nextByte
  goOn { machine.setRegister register (byte &&& mask) with random := rest } []

/-- One if a condition holds, otherwise zero. -/
def flagOf (condition : Bool) : Byte :=
  if condition then 1 else 0

/-- The three decimal digits of a byte, the hundreds first. -/
def decimalDigits (value : Byte) : List Byte :=
  [value / 100, value / 10 % 10, value % 10]

/-- The first registers replaced by bytes. -/
def replaceFirst (registers : Vector Byte 16) (bytes : List Byte) : Vector Byte 16 :=
  Vector.ofFn fun register => bytes.getD register.val registers[register]

/-- Store bytes at the index register. -/
def storeAtIndex (machine : Machine) (bytes : List Byte) : Outcome Status :=
  match machine.memory.writeBlock machine.index.toNat bytes with
  | .ok memory => goOn { machine with memory := memory } []
  | .error fault => machine.refuse fault

/-- Load the first registers from bytes at the index register. -/
def loadAtIndex (machine : Machine) (count : Nat) : Outcome Status :=
  match machine.memory.readBlock machine.index.toNat count with
  | .ok bytes => goOn { machine with registers := replaceFirst machine.registers bytes } []
  | .error fault => machine.refuse fault

/-- Draw the sprite of so many rows at the index register. -/
def drawSprite (machine : Machine) (x y : Byte) (rows : Nat) : Outcome Status :=
  match machine.memory.readBlock machine.index.toNat rows with
  | .ok sprite =>
    let drawing := machine.screen.blit (by decide) x.toNat y.toNat sprite
    goOn
      { machine with
        screen := drawing.display
        registers := machine.registers.set 15 (flagOf drawing.collision) (by decide) } []
  | .error fault => machine.refuse fault

/-! ## The operations -/

/-- Do one operation with the operands of a word. -/
def exec (operation : Operation) (word : Word) (machine : Machine) : Outcome Status :=
  let x := word.x
  let vx := machine.registers[x]
  let vy := machine.registers[word.y]
  match operation with
  -- flow control
  | .systemCall => machine.goOn [.systemCallIgnored word.address]
  | .clearScreen => goOn { machine with screen := machine.screen.clear } []
  | .ret => machine.goBack
  | .jump => goOn { machine with counter := word.address } []
  | .call => machine.goAndRemember word.address
  | .jumpOffset =>
    goOn { machine with
      counter := word.address + UInt16.ofNat machine.registers[0].toNat } []
  -- conditional skips
  | .skipIfByte => goOn (machine.skipIf (vx == word.immediate)) []
  | .skipUnlessByte => goOn (machine.skipIf (vx != word.immediate)) []
  | .skipIfSame => goOn (machine.skipIf (vx == vy)) []
  | .skipUnlessSame => goOn (machine.skipIf (vx != vy)) []
  | .skipIfHeld => goOn (machine.skipIf (machine.keypad.holds vx)) []
  | .skipUnlessHeld => goOn (machine.skipIf (!machine.keypad.holds vx)) []
  -- immediate bytes
  | .loadByte => goOn (machine.setRegister x word.immediate) []
  | .addByte => goOn (machine.setRegister x (vx + word.immediate)) []
  -- arithmetic on registers
  | .copy => goOn (machine.setRegister x vy) []
  | .bitOr => goOn (machine.setRegister x (vx ||| vy)) []
  | .bitAnd => goOn (machine.setRegister x (vx &&& vy)) []
  | .bitXor => goOn (machine.setRegister x (vx ^^^ vy)) []
  | .add => goOn (machine.setWithFlag x (vx + vy) (flagOf (255 < vx.toNat + vy.toNat))) []
  | .subtract => goOn (machine.setWithFlag x (vx - vy) (flagOf (vy ≤ vx))) []
  | .subtractFrom => goOn (machine.setWithFlag x (vy - vx) (flagOf (vx ≤ vy))) []
  | .shiftRight => goOn (machine.setWithFlag x (vx / 2) (vx % 2)) []
  | .shiftLeft =>
    goOn (machine.setWithFlag x (vx * 2)
      (if machine.settings.shiftFlagFromLowBit then vx % 2 else vx / 128)) []
  -- the index register and memory
  | .loadIndex => goOn { machine with index := word.address } []
  | .advanceIndex => goOn { machine with index := machine.index + UInt16.ofNat vx.toNat } []
  | .pointAtGlyph => goOn { machine with index := Font.glyphAddress vx } []
  | .storeDigits => machine.storeAtIndex (decimalDigits vx)
  | .storeRegisters => machine.storeAtIndex (machine.registers.toList.take (x.val + 1))
  | .loadRegisters => machine.loadAtIndex (x.val + 1)
  -- random bytes and sprites
  | .random => machine.drawByte x word.immediate
  | .draw => machine.drawSprite vx vy word.nibble
  -- timers and keys
  | .readDelay => goOn (machine.setRegister x machine.delay) []
  | .setDelay => goOn { machine with delay := vx } []
  | .setSound => goOn { machine with sound := vx } []
  | .awaitKey => machine.takeKey x

/-- Do the operation whose word has a given value. -/
def execCode (code : Int) (word : Word) (machine : Machine) : Outcome Status :=
  match Operation.ofCode? code with
  | some operation => exec operation word machine
  | none => machine.refuse (.ofUnhandledCode code)

end Chip8.Machine
