/-
# What a plain scalar means

A plain scalar that looks like nothing, a truth value, an integer or a number is
read as one; any other is text. Integers are written in binary, octal,
hexadecimal, decimal or in base sixty with colons; numbers need a decimal point.
Underscores may stand anywhere behind the first digit and are ignored.

Some scalars look like an integer and still cannot be read: a base mark with
underscores alone behind it, or a decimal with too many digits. A document that
holds one cannot be read at all.
-/

import Chip8.Text.Integer
import Chip8.Value

namespace Chip8.Yaml

/-- What reading a scalar in one form comes to. -/
inductive Reading (α : Type) where
  /-- The scalar does not have the form. -/
  | other
  /-- It has the form, but cannot be read. -/
  | unreadable
  /-- It is read. -/
  | value (value : α)
  deriving Repr

/-- The words for nothing. -/
def nullWords : List String := ["", "~", "null", "Null", "NULL"]

/-- The words for true. -/
def trueWords : List String :=
  ["yes", "Yes", "YES", "true", "True", "TRUE", "on", "On", "ON"]

/-- The words for false. -/
def falseWords : List String :=
  ["no", "No", "NO", "false", "False", "FALSE", "off", "Off", "OFF"]

/-! ## Runs of digits -/

/-- Whether a character is a digit below a base, or an underscore. -/
def isDigitBelow (base : Nat) (character : Char) : Bool :=
  character == '_' || match Text.plainDigitValue? character with
    | some value => value < base
    | none => false

/-- A run of digits and underscores as a number. -/
def numberOf (base : Nat) (run : List Char) : Nat :=
  Text.ofDigits base (run.filterMap Text.plainDigitValue?)

/-- A run of digits and underscores as a number, if it has a digit. -/
def markedNumber (base : Nat) (run : List Char) : Reading Nat :=
  if run.isEmpty || !run.all (isDigitBelow base) then .other
  else if run.all (· == '_') then .unreadable
  else .value (numberOf base run)

/-- A decimal run as a number, if it does not have too many digits. -/
def decimalNumber (run : List Char) : Reading Nat :=
  if Text.digitLimit < (run.filter (· != '_')).length then .unreadable
  else .value (numberOf 10 run)

/-- Whether a text is one or two digits below sixty. -/
def isSixtieth : List Char → Bool
  | [low] => low.isDigit
  | [high, low] => '0' ≤ high && high ≤ '5' && low.isDigit
  | _ => false

/-- Whether a text starts with a digit and goes on with digits and underscores. -/
def isDecimalRun : List Char → Bool
  | [] => false
  | first :: rest => first.isDigit && rest.all (isDigitBelow 10)

/-! ## Integers -/

/-- Digits in base sixty: a decimal run, then digits below sixty behind colons. -/
def sexagesimal (text : List Char) : Reading Nat :=
  match text.splitOn ':' with
  | first :: second :: more =>
    if isDecimalRun first && first.head? != some '0' && (second :: more).all isSixtieth then
      match decimalNumber first with
      | .value lead =>
        .value (Text.ofDigits 60 (lead :: (second :: more).map (numberOf 10)))
      | _ => .unreadable
    else .other
  | _ => .other

/-- An integer without its sign. -/
def magnitude (text : List Char) : Reading Nat :=
  match text with
  | '0' :: 'b' :: run => markedNumber 2 run
  | '0' :: 'x' :: run => markedNumber 16 run
  | ['0'] => .value 0
  | '0' :: run => if run.all (isDigitBelow 8) then .value (numberOf 8 run) else .other
  | _ => if isDecimalRun text then decimalNumber text else sexagesimal text

/-- An integer. -/
def integer (text : List Char) : Reading Int :=
  let (negative, unsigned) := Text.splitSign text
  match magnitude unsigned with
  | .value size => .value (if negative then -(size : Int) else size)
  | .unreadable => .unreadable
  | .other => .other

/-! ## Numbers -/

/-- An exponent: a letter, a sign that must stand, and digits. Nothing is zero. -/
def exponent? (text : List Char) : Option Int :=
  match text with
  | [] => some 0
  | mark :: sign :: digits =>
    if (mark = 'e' ∨ mark = 'E') ∧ (sign = '+' ∨ sign = '-') ∧ digits ≠ [] ∧
        digits.all Char.isDigit then
      let size : Int := numberOf 10 digits
      some (if sign = '-' then -size else size)
    else none
  | _ => none

/-- The double of a whole part, a fraction and an exponent. -/
def decimalReal (negative : Bool) (whole fraction : List Char) (exponent : Int) : Binary64 :=
  let places := (fraction.filter (· != '_')).length
  Binary64.ofDecimal negative (numberOf 10 (whole ++ fraction)) (exponent - places)

/-- The double of digits in base sixty, the last of which may have a fraction. -/
def sexagesimalReal (negative : Bool) (higher : List Nat) (whole fraction : List Char) : Binary64 :=
  let last := decimalReal false whole fraction 0
  let (total, _) := higher.reverse.foldl
    (fun (state : Binary64 × Nat) digit =>
      (state.1.plus ((Binary64.ofRatio false digit 1).times (Binary64.ofRatio false state.2 1)),
        state.2 * 60))
    (last, 60)
  if negative then total.opposite else total

/-- A number with a decimal point, without its sign. A number that starts with its
point cannot have had a sign, and its fraction starts with a digit. -/
def realWithSign (signed negative : Bool) (text : List Char) : Option Binary64 :=
  let whole := text.takeWhile fun c => c.isDigit || c == '_' || c == ':'
  match text.drop whole.length with
  | '.' :: more =>
    let fraction := more.takeWhile (isDigitBelow 10)
    let tail := more.drop fraction.length
    if whole.isEmpty then
      if signed ∨ isDecimalRun fraction = false then none
      else (exponent? tail).map (decimalReal negative [] fraction)
    else if isDecimalRun whole then (exponent? tail).map (decimalReal negative whole fraction)
    else
      match (whole.splitOn ':').reverse with
      | last :: middle@(_ :: _) =>
        match middle.reverse with
        | first :: between =>
          if isDecimalRun first && between.all isSixtieth && isSixtieth last && tail.isEmpty then
            some (sexagesimalReal negative (numberOf 10 first :: between.map (numberOf 10))
              last fraction)
          else none
        | [] => none
      | _ => none
  | _ => none

/-- A number: infinite, none, or with a decimal point. -/
def real? (text : List Char) : Option Binary64 :=
  let (negative, unsigned) := Text.splitSign text
  let signed := unsigned.length < text.length
  if String.ofList unsigned ∈ [".inf", ".Inf", ".INF"] then some (.infinite negative)
  else if String.ofList text ∈ [".nan", ".NaN", ".NAN"] then some .notANumber
  else realWithSign signed negative unsigned

/-! ## Resolution -/

/-- What a plain scalar means, if it can be read. A lone equals sign is text as a
key, and neither it nor the sign for merging means anything as a value. -/
def resolve (isKey : Bool) (text : List Char) : Option Value :=
  let word := String.ofList text
  if word ∈ nullWords then some .null
  else if word ∈ trueWords then some (.boolean true)
  else if word ∈ falseWords then some (.boolean false)
  else if word = "<<" ∨ (word = "=" ∧ isKey = false) then none
  else
    match real? text with
    | some number => some (.real number)
    | none =>
      match integer text with
      | .value number => some (.integer number)
      | .unreadable => none
      | .other => some (.text word)

end Chip8.Yaml
