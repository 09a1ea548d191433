/-
# The operations and their table

The machine knows thirty-five operations. Each has one row: the name it is
printed under, its word with every operand nibble zero, and the operands that
its text shows.
-/

import Chip8.Word

namespace Chip8

/-- What an instruction word can tell the machine to do. -/
inductive Operation where
  /-- Call a routine of the host's own processor; this machine ignores it. -/
  | systemCall
  /-- Switch every pixel off. -/
  | clearScreen
  /-- Go back to the address on top of the return stack. -/
  | ret
  /-- Go to an address. -/
  | jump
  /-- Go to an address and remember the way back. -/
  | call
  /-- Skip the next instruction if VX is the immediate byte. -/
  | skipIfByte
  /-- Skip the next instruction unless VX is the immediate byte. -/
  | skipUnlessByte
  /-- Skip the next instruction if VX and VY are equal. -/
  | skipIfSame
  /-- Put the immediate byte into VX. -/
  | loadByte
  /-- Add the immediate byte to VX without a flag. -/
  | addByte
  /-- Copy VY to VX. -/
  | copy
  /-- Bitwise or of VX and VY. -/
  | bitOr
  /-- Bitwise and of VX and VY. -/
  | bitAnd
  /-- Bitwise exclusive or of VX and VY. -/
  | bitXor
  /-- Add VY to VX; the flag is the carry. -/
  | add
  /-- Take VY from VX; the flag tells that nothing was borrowed. -/
  | subtract
  /-- Halve VX; the flag is the bit that falls out. -/
  | shiftRight
  /-- Take VX from VY into VX; the flag tells that nothing was borrowed. -/
  | subtractFrom
  /-- Double VX; the flag is the bit that falls out. -/
  | shiftLeft
  /-- Skip the next instruction unless VX and VY are equal. -/
  | skipUnlessSame
  /-- Put an address into I. -/
  | loadIndex
  /-- Go to an address plus V0. -/
  | jumpOffset
  /-- Put a random byte, masked by the immediate byte, into VX. -/
  | random
  /-- Draw the sprite at I; the flag tells of a lit pixel switched off. -/
  | draw
  /-- Skip the next instruction if key VX is held. -/
  | skipIfHeld
  /-- Skip the next instruction unless key VX is held. -/
  | skipUnlessHeld
  /-- Copy the delay timer to VX. -/
  | readDelay
  /-- Put the lowest held key into VX, or try again. -/
  | awaitKey
  /-- Set the delay timer from VX. -/
  | setDelay
  /-- Set the sound timer from VX. -/
  | setSound
  /-- Add VX to I. -/
  | advanceIndex
  /-- Point I at the font glyph of VX. -/
  | pointAtGlyph
  /-- Store the three decimal digits of VX at I. -/
  | storeDigits
  /-- Store V0 to VX at I. -/
  | storeRegisters
  /-- Load V0 to VX from I. -/
  | loadRegisters
  deriving DecidableEq, Repr

namespace Operation

/-- Every operation, in the order of the table. -/
def all : List Operation :=
  [.systemCall, .clearScreen, .ret, .jump, .call, .skipIfByte, .skipUnlessByte, .skipIfSame,
    .loadByte, .addByte, .copy, .bitOr, .bitAnd, .bitXor, .add, .subtract, .shiftRight,
    .subtractFrom, .shiftLeft, .skipUnlessSame, .loadIndex, .jumpOffset, .random, .draw,
    .skipIfHeld, .skipUnlessHeld, .readDelay, .awaitKey, .setDelay, .setSound, .advanceIndex,
    .pointAtGlyph, .storeDigits, .storeRegisters, .loadRegisters]

/-- The name an operation is printed under. -/
def name : Operation → String
  | systemCall => "SYS"
  | clearScreen => "CLS"
  | ret => "RET"
  | jump => "JP"
  | call => "CALL"
  | skipIfByte => "SE_IMM"
  | skipUnlessByte => "SNE_IMM"
  | skipIfSame => "SE_REG"
  | loadByte => "LD_IMM"
  | addByte => "ADD_IMM"
  | copy => "LD_REG"
  | bitOr => "OR"
  | bitAnd => "AND"
  | bitXor => "XOR"
  | add => "ADD_REG"
  | subtract => "SUB"
  | shiftRight => "SHR"
  | subtractFrom => "SUBN"
  | shiftLeft => "SHL"
  | skipUnlessSame => "SNE_REG"
  | loadIndex => "LD_I"
  | jumpOffset => "JP_V0"
  | random => "RND"
  | draw => "DRW"
  | skipIfHeld => "SKP"
  | skipUnlessHeld => "SKNP"
  | readDelay => "LD_VX_DT"
  | awaitKey => "LD_KEY"
  | setDelay => "LD_DT"
  | setSound => "LD_ST"
  | advanceIndex => "ADD_I"
  | pointAtGlyph => "LD_FONT"
  | storeDigits => "LD_BCD"
  | storeRegisters => "STORE_REGS"
  | loadRegisters => "LOAD_REGS"

/-- The word of an operation with every operand nibble zero. -/
def code : Operation → Word
  | systemCall => 0x0000
  | clearScreen => 0x00E0
  | ret => 0x00EE
  | jump => 0x1000
  | call => 0x2000
  | skipIfByte => 0x3000
  | skipUnlessByte => 0x4000
  | skipIfSame => 0x5000
  | loadByte => 0x6000
  | addByte => 0x7000
  | copy => 0x8000
  | bitOr => 0x8001
  | bitAnd => 0x8002
  | bitXor => 0x8003
  | add => 0x8004
  | subtract => 0x8005
  | shiftRight => 0x8006
  | subtractFrom => 0x8007
  | shiftLeft => 0x800E
  | skipUnlessSame => 0x9000
  | loadIndex => 0xA000
  | jumpOffset => 0xB000
  | random => 0xC000
  | draw => 0xD000
  | skipIfHeld => 0xE09E
  | skipUnlessHeld => 0xE0A1
  | readDelay => 0xF007
  | awaitKey => 0xF00A
  | setDelay => 0xF015
  | setSound => 0xF018
  | advanceIndex => 0xF01E
  | pointAtGlyph => 0xF029
  | storeDigits => 0xF033
  | storeRegisters => 0xF055
  | loadRegisters => 0xF065

/-- The operand nibbles that a row of the table leaves free. -/
inductive Shape where
  /-- No nibble is free. -/
  | fixed
  /-- The last three nibbles are an address. -/
  | address
  /-- A register, then an immediate byte. -/
  | registerByte
  /-- Two registers; the last nibble is fixed. -/
  | registerPair
  /-- Two registers, then a nibble. -/
  | registerPairNibble
  /-- One register; the last two nibbles are fixed. -/
  | register
  deriving DecidableEq, Repr

/-- The free operand nibbles of each operation. -/
def shape : Operation → Shape
  | clearScreen | ret => .fixed
  | systemCall | jump | call | loadIndex | jumpOffset => .address
  | skipIfByte | skipUnlessByte | loadByte | addByte | random => .registerByte
  | skipIfSame | skipUnlessSame | copy | bitOr | bitAnd | bitXor | add | subtract
  | shiftRight | subtractFrom | shiftLeft => .registerPair
  | draw => .registerPairNibble
  | skipIfHeld | skipUnlessHeld | readDelay | awaitKey | setDelay | setSound | advanceIndex
  | pointAtGlyph | storeDigits | storeRegisters | loadRegisters => .register

/-- Find an operation by the name it is printed under. -/
def ofName? (text : String) : Option Operation :=
  all.find? fun operation => operation.name == text

/-- Find an operation by the exact value of its word. -/
def ofCode? (value : Int) : Option Operation :=
  all.find? fun operation => (operation.code.toNat : Int) == value

/-- The table lists every operation. -/
theorem mem_all (operation : Operation) : operation ∈ all := by
  cases operation <;> decide

/-- Names tell operations apart. -/
@[simp] theorem ofName?_name (operation : Operation) : ofName? operation.name = some operation := by
  cases operation <;> decide

/-- Words with zero operands tell operations apart. -/
@[simp] theorem ofCode?_code (operation : Operation) :
    ofCode? operation.code.toNat = some operation := by
  cases operation <;> decide

end Operation

end Chip8
