/-
# Faults

Everything that a machine refuses to do, by cause. A fault says what was asked
for; what becomes of the machine is for the operation that met the fault to say.

Decimal numbers are written up to 4300 digits and no further. Whatever would put
a longer one into a text is refused in place of what it was about to say.
-/

import Chip8.Word
import Chip8.Text.Numeral
import Chip8.Text.Integer

namespace Chip8

/-- Why a machine cannot do what it was told. -/
inductive Fault where
  /-- A push onto a return stack that is full. -/
  | stackFull (value : Int)
  /-- A pop from a return stack that is empty. -/
  | stackEmpty
  /-- An access to `length` bytes from an address, not all in memory. -/
  | outsideMemory (address length : Int)
  /-- A program of this many bytes does not fit above its start. -/
  | programTooLarge (size : Nat)
  /-- A word that selects no operation. -/
  | unknownWord (word : Word)
  /-- A number that is the word of no operation. -/
  | unhandledCode (code : Int)
  /-- A key number that the keypad does not have. -/
  | noSuchKey (key : Int)
  /-- A timer that should tick after every zero steps. -/
  | zeroTimerRatio
  /-- A number that has too many digits to be written. -/
  | unwritable (value : Int)
  deriving DecidableEq, Repr

/-- Whether a fault is one of the machine itself. The others are for the host that asked for
what there is not. -/
def Fault.isMachineFault : Fault → Bool
  | noSuchKey _ | zeroTimerRatio | unwritable _ => false
  | _ => true

/-! ## Numbers of too many digits -/

/-- Whether an integer has few enough digits to be written. -/
def IsWritable (value : Int) : Prop :=
  (Nat.toDigits 10 value.natAbs).length ≤ Text.digitLimit

instance (value : Int) : Decidable (IsWritable value) :=
  inferInstanceAs (Decidable ((Nat.toDigits 10 value.natAbs).length ≤ Text.digitLimit))

/-- The fault of a number that is the word of no operation: it is named, if it can be. -/
def Fault.ofUnhandledCode (code : Int) : Fault :=
  if IsWritable code then .unhandledCode code else .unwritable code

/-- The text of an integer, if it has few enough digits to be written. -/
def decimalWithinLimit? (value : Int) : Option String :=
  if IsWritable value then some (Numeral.decimal 1 value) else none

/-- What is said in place of a text that would hold too many digits. -/
def tooManyDigits : String :=
  "Exceeds the limit (4300 digits) for integer string conversion; " ++
    "use sys.set_int_max_str_digits() to increase the limit"

/-- A text with an integer in it, or the refusal to write so many digits. -/
def telling (value : Int) (text : String → String) : String :=
  match decimalWithinLimit? value with
  | some digits => text digits
  | none => tooManyDigits

/-! ## Texts -/

/-- The text of a fault. -/
def Fault.message : Fault → String
  | stackFull value => "return stack full (16 entries) pushing " ++ Numeral.markedHex 5 value
  | stackEmpty => "return with empty stack"
  | outsideMemory address length =>
    "memory access " ++ Numeral.markedHex 5 address ++ ".." ++
      Numeral.markedHex 5 (address + length - 1) ++ " outside 0x000..0xfff"
  | programTooLarge size =>
    telling size fun digits => "Program is " ++ digits ++ " bytes, at most 3584 fit above 0x200"
  | unknownWord word => "Unknown opcode " ++ Numeral.hex 4 word.toNat
  | unhandledCode code => telling code fun digits => "Unhandled opcode: " ++ digits
  | noSuchKey key => telling key fun digits => "key must be in 0..15, got " ++ digits
  | zeroTimerRatio => "integer modulo by zero"
  | unwritable _ => tooManyDigits

end Chip8
