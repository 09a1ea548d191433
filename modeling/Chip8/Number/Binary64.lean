/-
# Double-precision numbers

A double-precision number is kept as what it denotes: a sign, a whole mantissa
and a power of two, or one of the special values. Numbers come into being by one
rule: the exact quotient of two naturals is rounded to the nearest double, and a
tie goes to the even mantissa. Sums and products are formed exactly and rounded
by the same rule.
-/

namespace Chip8

/-- A double-precision number. -/
inductive Binary64 where
  /-- The number `mantissa * 2 ^ exponent`, negated if `negative`. -/
  | finite (negative : Bool) (mantissa : Nat) (exponent : Int)
  /-- An infinity. -/
  | infinite (negative : Bool)
  /-- No number. -/
  | notANumber
  deriving DecidableEq, Repr, Inhabited

namespace Binary64

/-- The exponent of the smallest positive double. -/
def leastExponent : Int := -1074

/-- The exponent of the largest finite doubles. -/
def greatestExponent : Int := 971

/-- Two to the power of 53: full mantissas lie below it. -/
def mantissaLimit : Nat := 9007199254740992

/-- A quotient rounded to a whole number, ties to even. -/
def divideToEven (numerator denominator : Nat) : Nat :=
  let quotient := numerator / denominator
  let twice := 2 * (numerator % denominator)
  if denominator < twice ∨ (twice = denominator ∧ quotient % 2 = 1) then quotient + 1
  else quotient

/-- The quotient divided by a power of two, as a quotient of naturals. -/
def scaled (numerator denominator : Nat) (exponent : Int) : Nat × Nat :=
  (numerator * Nat.pow 2 (-exponent).toNat, denominator * Nat.pow 2 exponent.toNat)

/-- The exponent that gives the quotient a mantissa of 53 bits, or the least one. -/
def exponentFor (numerator denominator : Nat) : Int :=
  let guess : Int := numerator.log2 - denominator.log2 - 53
  let (scaledNumerator, scaledDenominator) := scaled numerator denominator guess
  let exact := if scaledNumerator / scaledDenominator < mantissaLimit then guess else guess + 1
  max exact leastExponent

/-- The double nearest to a quotient of naturals. -/
def ofRatio (negative : Bool) (numerator denominator : Nat) : Binary64 :=
  if numerator = 0 then .finite negative 0 0
  else
    let exponent := exponentFor numerator denominator
    let (scaledNumerator, scaledDenominator) := scaled numerator denominator exponent
    let mantissa := divideToEven scaledNumerator scaledDenominator
    if greatestExponent < exponent ∨ (exponent = greatestExponent ∧ mantissaLimit ≤ mantissa) then
      .infinite negative
    else .finite negative mantissa exponent

/-- The double nearest to a decimal `digits * 10 ^ exponent`. A decimal whose
size alone shows that it is out of range is not computed. -/
def ofDecimal (negative : Bool) (digits : Nat) (exponent : Int) : Binary64 :=
  let size : Int := (Nat.toDigits 10 digits).length + exponent
  if digits = 0 ∨ size < -330 then .finite negative 0 0
  else if 330 < size then .infinite negative
  else ofRatio negative (digits * Nat.pow 10 exponent.toNat) (Nat.pow 10 (-exponent).toNat)

/-- The whole part of a number, cut toward zero. -/
def truncate (negative : Bool) (mantissa : Nat) (exponent : Int) : Int :=
  let magnitude : Nat := mantissa * Nat.pow 2 exponent.toNat / Nat.pow 2 (-exponent).toNat
  if negative then -(magnitude : Int) else magnitude

/-- Whether a number counts as true: all do but the two zeros. -/
def isTrue : Binary64 → Bool
  | finite _ mantissa _ => mantissa != 0
  | infinite _ | notANumber => true

/-- A finite number as a signed quotient of an integer and a natural. -/
def toRatio (negative : Bool) (mantissa : Nat) (exponent : Int) : Int × Nat :=
  let magnitude : Nat := mantissa * Nat.pow 2 exponent.toNat
  (if negative then -(magnitude : Int) else magnitude, Nat.pow 2 (-exponent).toNat)

/-- The double nearest to a signed quotient. -/
def ofSignedRatio (numerator : Int) (denominator : Nat) : Binary64 :=
  ofRatio (numerator < 0) numerator.natAbs denominator

/-- The number with its sign turned. -/
def opposite : Binary64 → Binary64
  | finite negative mantissa exponent => finite (!negative) mantissa exponent
  | infinite negative => infinite (!negative)
  | notANumber => notANumber

/-- The sum of two numbers. -/
def plus : Binary64 → Binary64 → Binary64
  | finite negative mantissa exponent, finite negative' mantissa' exponent' =>
    let (numerator, denominator) := toRatio negative mantissa exponent
    let (numerator', denominator') := toRatio negative' mantissa' exponent'
    ofSignedRatio (numerator * denominator' + numerator' * denominator) (denominator * denominator')
  | infinite negative, infinite negative' =>
    if negative = negative' then infinite negative else notANumber
  | infinite negative, finite _ _ _ | finite _ _ _, infinite negative => infinite negative
  | notANumber, _ | _, notANumber => notANumber

/-- The product of two numbers. -/
def times : Binary64 → Binary64 → Binary64
  | finite negative mantissa exponent, finite negative' mantissa' exponent' =>
    let (numerator, denominator) := toRatio negative mantissa exponent
    let (numerator', denominator') := toRatio negative' mantissa' exponent'
    ofRatio (negative != negative') (numerator * numerator').natAbs (denominator * denominator')
  | infinite negative, infinite negative' => infinite (negative != negative')
  | infinite negative, finite negative' mantissa _
  | finite negative' mantissa _, infinite negative =>
    if mantissa = 0 then notANumber else infinite (negative != negative')
  | notANumber, _ | _, notANumber => notANumber

/-- Whether a finite number is a given integer. -/
def equalsInteger (number : Binary64) (value : Int) : Bool :=
  match number with
  | finite negative mantissa exponent =>
    let (numerator, denominator) := toRatio negative mantissa exponent
    numerator == value * denominator
  | infinite _ | notANumber => false

/-- Equality of numbers: the two zeros are equal, and no number equals nothing. -/
def equals : Binary64 → Binary64 → Bool
  | finite negative mantissa exponent, finite negative' mantissa' exponent' =>
    let (numerator, denominator) := toRatio negative mantissa exponent
    let (numerator', denominator') := toRatio negative' mantissa' exponent'
    numerator * denominator' == numerator' * denominator
  | infinite negative, infinite negative' => negative == negative'
  | _, _ => false

end Binary64

end Chip8
