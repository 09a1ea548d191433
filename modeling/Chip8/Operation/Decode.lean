/-
# Reading instruction words

`decode` selects an operation by the family nibble and, in four families, by the
last one or two nibbles. A word that selects nothing is no instruction, and
`decode` says so with `none`; what follows from that is for the machine to say.
-/

import Chip8.Operation.Basic

namespace Chip8

/-- Family 8: register arithmetic, selected by the last nibble. -/
def decodeArithmetic (nibble : Nat) : Option Operation :=
  match nibble with
  | 0x0 => some .copy
  | 0x1 => some .bitOr
  | 0x2 => some .bitAnd
  | 0x3 => some .bitXor
  | 0x4 => some .add
  | 0x5 => some .subtract
  | 0x6 => some .shiftRight
  | 0x7 => some .subtractFrom
  | 0xE => some .shiftLeft
  | _ => none

/-- Family E: keys, selected by the last two nibbles. -/
def decodeKey (selector : Nat) : Option Operation :=
  match selector with
  | 0x9E => some .skipIfHeld
  | 0xA1 => some .skipUnlessHeld
  | _ => none

/-- Family F: timers, index and memory, selected by the last two nibbles. -/
def decodeMiscellaneous (selector : Nat) : Option Operation :=
  match selector with
  | 0x07 => some .readDelay
  | 0x0A => some .awaitKey
  | 0x15 => some .setDelay
  | 0x18 => some .setSound
  | 0x1E => some .advanceIndex
  | 0x29 => some .pointAtGlyph
  | 0x33 => some .storeDigits
  | 0x55 => some .storeRegisters
  | 0x65 => some .loadRegisters
  | _ => none

/-- The operation that a word selects, if it selects one. -/
def decode (word : Word) : Option Operation :=
  match word.family with
  | 0x0 =>
    if word = Operation.clearScreen.code then some .clearScreen
    else if word = Operation.ret.code then some .ret
    else some .systemCall
  | 0x1 => some .jump
  | 0x2 => some .call
  | 0x3 => some .skipIfByte
  | 0x4 => some .skipUnlessByte
  | 0x5 => if word.nibble = 0 then some .skipIfSame else none
  | 0x6 => some .loadByte
  | 0x7 => some .addByte
  | 0x8 => decodeArithmetic word.nibble
  | 0x9 => if word.nibble = 0 then some .skipUnlessSame else none
  | 0xA => some .loadIndex
  | 0xB => some .jumpOffset
  | 0xC => some .random
  | 0xD => some .draw
  | 0xE => decodeKey word.immediate.toNat
  | 0xF => decodeMiscellaneous word.immediate.toNat
  | _ => none

end Chip8
