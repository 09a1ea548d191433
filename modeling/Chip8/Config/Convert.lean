/-
# Integers and truth values out of loose values

A configuration may give an integer as an integer, a truth value, a double or a
text, and a truth value as anything at all. Conversion follows one rule for each
target. A double is cut toward zero. A text is read as a decimal integer. As a
truth value a text must be one of a few words, in any case and with white space
around; any other value counts by whether it is empty or zero.
-/

import Chip8.Text.Integer
import Chip8.Text.Quoted
import Chip8.Value

namespace Chip8

/-- Why a value cannot be converted. -/
inductive ConversionFault where
  /-- The text is not written like an integer. -/
  | notAnInteger (text : String)
  /-- The text has this many decimal digits, too many to be read. -/
  | tooManyDigits (count : Nat)
  /-- A value of this kind is never an integer. -/
  | wrongKind (kind : String)
  /-- A thing of another kind is no integer, for this reason. -/
  | refused (reason : String)
  /-- An infinite number has no whole part. -/
  | infinite
  /-- What is no number has no whole part. -/
  | notANumber
  /-- The text is no word for a truth value. -/
  | notABoolean (text : String)
  deriving DecidableEq, Repr

/-- The text of a conversion fault. A text that is no integer is shown quoted, and
of that the first two hundred characters. -/
def ConversionFault.message : ConversionFault → String
  | notAnInteger text =>
    "invalid literal for int() with base 10: " ++
      String.ofList ((Text.quoted text).toList.take 200)
  | tooManyDigits count =>
    "Exceeds the limit (4300 digits) for integer string conversion: value has " ++
      Numeral.decimal 1 count ++ " digits; use sys.set_int_max_str_digits() to increase the limit"
  | wrongKind kind =>
    "int() argument must be a string, a bytes-like object or a real number, not " ++
      Text.quoted kind
  | refused reason => reason
  | infinite => "cannot convert float infinity to integer"
  | notANumber => "cannot convert float NaN to integer"
  | notABoolean text => "not a boolean: " ++ Text.quoted text

/-- The words for true. -/
def trueWords : List String := ["1", "true", "yes", "on"]

/-- The words for false. Nothing at all is one of them. -/
def falseWords : List String := ["0", "false", "no", "off", ""]

/-- A text as a word: without white space around and in lower case. Only letters
that occur in the words need a lower case. -/
def wordOf (text : String) : String :=
  String.ofList ((Text.trim text.toList).map Char.toLower)

namespace Value

/-- A value as an integer. -/
def toInteger : Value → Except ConversionFault Int
  | boolean value => .ok (if value then 1 else 0)
  | integer value => .ok value
  | real (.finite negative mantissa exponent) => .ok (Binary64.truncate negative mantissa exponent)
  | real (.infinite _) => .error .infinite
  | real .notANumber => .error .notANumber
  | text value =>
    match Text.readInteger .ten value.toList with
    | .ok number => .ok number
    | .error .malformed => .error (.notAnInteger value)
    | .error (.tooManyDigits count) => .error (.tooManyDigits count)
  | other thing =>
    match thing.integer with
    | .ok number => .ok number
    | .error reason => .error (.refused reason)
  | unfit => .error (.wrongKind unfit.kindName)

/-- A value as an integer, where nothing stays nothing. -/
def toInteger? : Value → Except ConversionFault (Option Int)
  | null => .ok none
  | given => given.toInteger.map some

/-- A value as a truth value. -/
def toBoolean : Value → Except ConversionFault Bool
  | text value =>
    let word := wordOf value
    if word ∈ trueWords then .ok true
    else if word ∈ falseWords then .ok false
    else .error (.notABoolean value)
  | given => .ok given.isTrue

end Value

end Chip8
