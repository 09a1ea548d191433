/-
# The built-in font

Sixteen glyphs, one for each hexadecimal digit, four pixels wide and five rows
high. They lie at the very start of memory, so a digit's glyph starts at five
times the digit.
-/

import Chip8.Word

namespace Chip8.Font

/-- The number of rows of a glyph. -/
def glyphSize : Nat := 5

/-- All glyphs, from zero to F. -/
def glyphs : List Byte :=
  [0xF0, 0x90, 0x90, 0x90, 0xF0,
    0x20, 0x60, 0x20, 0x20, 0x70,
    0xF0, 0x10, 0xF0, 0x80, 0xF0,
    0xF0, 0x10, 0xF0, 0x10, 0xF0,
    0x90, 0x90, 0xF0, 0x10, 0x10,
    0xF0, 0x80, 0xF0, 0x10, 0xF0,
    0xF0, 0x80, 0xF0, 0x90, 0xF0,
    0xF0, 0x10, 0x20, 0x40, 0x40,
    0xF0, 0x90, 0xF0, 0x90, 0xF0,
    0xF0, 0x90, 0xF0, 0x10, 0xF0,
    0xF0, 0x90, 0xF0, 0x90, 0x90,
    0xE0, 0x90, 0xE0, 0x90, 0xE0,
    0xF0, 0x80, 0x80, 0x80, 0xF0,
    0xE0, 0x90, 0x90, 0x90, 0xE0,
    0xF0, 0x80, 0xF0, 0x80, 0xF0,
    0xF0, 0x80, 0xF0, 0x80, 0x80]

/-- Where the glyph of a digit starts. Larger values point behind the font. -/
def glyphAddress (digit : Byte) : Word :=
  UInt16.ofNat (digit.toNat * glyphSize)

end Chip8.Font
