/-
# Writing instruction words

A word is put together by laying its operands over the word of its operation.
Operands may be any integers; each is cut to the width of its field. An operand
that the operation has no field for must be zero, or it disturbs other fields.
-/

import Chip8.Operation.Basic

namespace Chip8

/-- Operands for every field of an instruction word. -/
structure Operands where
  /-- First register number. -/
  x : Int := 0
  /-- Second register number. -/
  y : Int := 0
  /-- Last nibble. -/
  nibble : Int := 0
  /-- Immediate byte. -/
  immediate : Int := 0
  /-- Address. -/
  address : Int := 0
  deriving DecidableEq, Repr

/-- All operands in their places, each cut to its width. -/
def Operands.toWord (operands : Operands) : Word :=
  Word.ofInt (operands.x % 16 * 256) ||| Word.ofInt (operands.y % 16 * 16) |||
    Word.ofInt (operands.nibble % 16) ||| Word.ofInt (operands.immediate % 256) |||
    Word.ofInt (operands.address % 4096)

/-- Lay operands over a base word. -/
def encodeOver (base : Int) (operands : Operands) : Word :=
  Word.ofInt base ||| operands.toWord

/-- The instruction word of an operation with the given operands. -/
def encode (operation : Operation) (operands : Operands) : Word :=
  encodeOver operation.code.toNat operands

/-- Program bytes of a list of words, the high byte of each first. -/
def assemble (words : List Int) : List Byte :=
  words.flatMap fun value =>
    let word := Word.ofInt value
    [word.highByte, word.lowByte]

end Chip8
