/-
# Quoted text

A text is shown between single quotes, or between double quotes when that saves
escaping: when it holds a single quote and no double quote. Inside, the
backslash and the quote in use are escaped, tab and line ends have their short
forms, and any other character that is not printable is shown by its code in
lower-case hexadecimal.
-/

import Chip8.Text.Numeral
import Chip8.Text.Printable

namespace Chip8.Text

/-- The single quote. -/
def singleQuote : Char := Char.ofNat 0x27

/-- The double quote. -/
def doubleQuote : Char := Char.ofNat 0x22

/-- The quote that a text is shown between. -/
def quoteFor (text : List Char) : Char :=
  if singleQuote ∈ text ∧ doubleQuote ∉ text then doubleQuote else singleQuote

/-- A code point in lower-case hexadecimal, padded with zeros. -/
def codeDigits (width point : Nat) : List Char :=
  Numeral.padLeft width '0' (Nat.toDigits 16 point)

/-- One character inside quotes. -/
def escape (quote character : Char) : List Char :=
  if character == '\\' || character == quote then ['\\', character]
  else if character == '\t' then ['\\', 't']
  else if character == '\n' then ['\\', 'n']
  else if character == '\r' then ['\\', 'r']
  else if isPrintable character then [character]
  else if character.toNat < 0x100 then ['\\', 'x'] ++ codeDigits 2 character.toNat
  else if character.toNat < 0x10000 then ['\\', 'u'] ++ codeDigits 4 character.toNat
  else ['\\', 'U'] ++ codeDigits 8 character.toNat

/-- A text between quotes. -/
def quoted (text : String) : String :=
  let characters := text.toList
  let quote := quoteFor characters
  String.ofList (quote :: characters.flatMap (escape quote) ++ [quote])

end Chip8.Text
