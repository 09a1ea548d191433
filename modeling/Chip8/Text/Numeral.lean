/-
# Numbers as padded text

Addresses, registers and ticks are written with a fixed least width. The three
forms differ in base, padding and mark only: upper-case hexadecimal padded with
zeros, lower-case hexadecimal after `0x`, and decimal padded with blanks. A
minus sign comes first and counts in the width.
-/

namespace Chip8.Numeral

/-- Upper-case hexadecimal digits, without leading zeros. -/
def hexDigits (value : Nat) : List Char :=
  (Nat.toDigits 16 value).map Char.toUpper

/-- The sign of an integer as text: nothing unless it is negative. -/
def sign (value : Int) : List Char :=
  if value < 0 then ['-'] else []

/-- Put enough copies of `fill` in front to reach `width`. -/
def padLeft (width : Nat) (fill : Char) (text : List Char) : List Char :=
  List.replicate (width - text.length) fill ++ text

/-- Put enough blanks behind to reach `width`. -/
def padRight (width : Nat) (text : String) : String :=
  text ++ String.ofList (List.replicate (width - text.length) ' ')

/-- Upper-case hexadecimal, at least `width` wide. -/
def hex (width : Nat) (value : Int) : String :=
  let lead := sign value
  String.ofList (lead ++ padLeft (width - lead.length) '0' (hexDigits value.natAbs))

/-- Lower-case hexadecimal behind `0x`, at least `width` wide. -/
def markedHex (width : Nat) (value : Int) : String :=
  let lead := sign value ++ ['0', 'x']
  String.ofList (lead ++ padLeft (width - lead.length) '0' (Nat.toDigits 16 value.natAbs))

/-- Decimal, at least `width` wide, with blanks in front. -/
def decimal (width : Nat) (value : Int) : String :=
  String.ofList (padLeft width ' ' (sign value ++ Nat.toDigits 10 value.natAbs))

end Chip8.Numeral
