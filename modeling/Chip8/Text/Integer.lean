/-
# Reading integers

An integer is written with optional white space around it, an optional sign, and
digits of the base; single underscores may stand between digits. Decimal digits
of any script count. In base sixteen the digits may follow `0x`, and one
underscore may follow that mark. A decimal text of more than 4300 digits is
refused whatever follows the digits; leading zeros count.
-/

import Chip8.Text.Blank
import Chip8.Text.Digit

namespace Chip8.Text

/-- The two bases in which integers are read. -/
inductive Base where
  | ten
  | sixteen
  deriving DecidableEq, Repr

/-- The number of digits in a base. -/
def Base.size : Base → Nat
  | ten => 10
  | sixteen => 16

/-- The most digits that a decimal text may have. -/
def digitLimit : Nat := 4300

/-- Why a text is no integer. -/
inductive IntegerFault where
  /-- The text does not follow the grammar. -/
  | malformed
  /-- The text has this many decimal digits, more than the limit. -/
  | tooManyDigits (count : Nat)
  deriving DecidableEq, Repr

/-- The value of a plain digit or letter: up to nine, then ten for `a`. -/
def plainDigitValue? (character : Char) : Option Nat :=
  if '0' ≤ character ∧ character ≤ '9' then some (character.toNat - '0'.toNat)
  else if 'a' ≤ character ∧ character ≤ 'f' then some (character.toNat - 'a'.toNat + 10)
  else if 'A' ≤ character ∧ character ≤ 'F' then some (character.toNat - 'A'.toNat + 10)
  else none

/-- The value of a character as a digit of a base. -/
def Base.digit? (base : Base) (character : Char) : Option Nat :=
  match (if character.toNat < 128 then plainDigitValue? character else digitValue? character) with
  | some value => if value < base.size then some value else none
  | none => none

/-- Whether a character may stand in a run of digits. -/
def Base.isDigitOrUnderscore (base : Base) (character : Char) : Bool :=
  character == '_' || (base.digit? character).isSome

/-- Split off a sign; the flag tells of a minus. -/
def splitSign : List Char → Bool × List Char
  | '-' :: rest => (true, rest)
  | '+' :: rest => (false, rest)
  | text => (false, text)

/-- Drop the mark of base sixteen, and one underscore behind it. The mark's
zero may be the zero of any script, because digits are read before marks. -/
def dropBaseMark (base : Base) (text : List Char) : List Char :=
  match base, text with
  | .sixteen, zero :: mark :: rest =>
    if base.digit? zero = some 0 ∧ (mark = 'x' ∨ mark = 'X') then
      match rest with
      | '_' :: digits => digits
      | digits => digits
    else text
  | _, _ => text

/-- Underscores stand only singly and only between digits. -/
def underscoresSeparate : List Char → Bool
  | [] => true
  | ['_'] => false
  | '_' :: '_' :: _ => false
  | _ :: rest => underscoresSeparate rest

/-- The digits of a run, without its underscores. -/
def Base.digits (base : Base) (run : List Char) : List Nat :=
  run.filterMap base.digit?

/-- The number that digits stand for, the most significant first. -/
def ofDigits (base : Nat) (digits : List Nat) : Nat :=
  digits.foldl (fun value digit => base * value + digit) 0

/-- Read an integer in a base. -/
def readInteger (base : Base) (text : List Char) : Except IntegerFault Int :=
  let (negative, unsigned) := splitSign (text.dropWhile isNumberBlank)
  let body := dropBaseMark base unsigned
  let run := body.takeWhile base.isDigitOrUnderscore
  let rest := body.dropWhile base.isDigitOrUnderscore
  let digits := base.digits run
  if run.head? = some '_' ∨ underscoresSeparate run = false then .error .malformed
  else if base = .ten ∧ digitLimit < digits.length then .error (.tooManyDigits digits.length)
  else if run = [] ∨ rest.all isNumberBlank = false then .error .malformed
  else
    let magnitude : Int := ofDigits base.size digits
    .ok (if negative then -magnitude else magnitude)

end Chip8.Text
