/-
# White space

Two sets of characters count as white space. `isBlank` is the wide one: the
separators of the character standard, the usual controls, and the four
information separators. `isNumberBlank` is what may stand around a number; it
leaves the information separators out.
-/

namespace Chip8.Text

/-- Tab, line feed, vertical tab, form feed, carriage return and blank. -/
def isPlainBlank (character : Char) : Bool :=
  character == ' ' || (9 ≤ character.toNat && character.toNat ≤ 13)

/-- White space beyond the first 128 characters. -/
def isWideBlank (character : Char) : Bool :=
  let point := character.toNat
  point == 0x85 || point == 0xA0 || point == 0x1680 || (0x2000 ≤ point && point ≤ 0x200A) ||
    point == 0x2028 || point == 0x2029 || point == 0x202F || point == 0x205F || point == 0x3000

/-- White space around words: also the information separators. -/
def isBlank (character : Char) : Bool :=
  isPlainBlank character || (0x1C ≤ character.toNat && character.toNat ≤ 0x1F) ||
    isWideBlank character

/-- White space around numbers. -/
def isNumberBlank (character : Char) : Bool :=
  isPlainBlank character || isWideBlank character

/-- Drop the characters of a class from both ends. -/
def trimBy (drop : Char → Bool) (text : List Char) : List Char :=
  ((text.dropWhile drop).reverse.dropWhile drop).reverse

/-- Drop white space from both ends. -/
def trim (text : List Char) : List Char :=
  trimBy isBlank text

end Chip8.Text
