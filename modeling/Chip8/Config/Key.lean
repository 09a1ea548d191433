/-
# Unknown keys

Keys that no setting has are told all at once: texts in ascending order, each
once. A document can also have keys that are no texts. Those cannot be listed;
the first of them in order is told by its kind, and keys that have no common
order are told by two kinds.
-/

import Chip8.Value

namespace Chip8

namespace Value

/-- Whether two keys of a mapping are the same key. Numbers are compared by value
across their kinds, with the truth values as one and zero. -/
def sameKey : Value → Value → Bool
  | null, null => true
  | text value, text value' => value == value'
  | other thing, other thing' => thing.kind == thing'.kind && thing.mark == thing'.mark
  | real value, real value' => value.equals value'
  | real value, key | key, real value =>
    match key with
    | integer number => value.equalsInteger number
    | boolean flag => value.equalsInteger (if flag then 1 else 0)
    | _ => false
  | integer value, integer value' => value == value'
  | integer value, boolean flag | boolean flag, integer value => value == if flag then 1 else 0
  | boolean flag, boolean flag' => flag == flag'
  | _, _ => false

/-- A finite number as a signed quotient. -/
def ratio? : Value → Option (Int × Nat)
  | boolean flag => some (if flag then 1 else 0, 1)
  | integer value => some (value, 1)
  | real (.finite negative mantissa exponent) =>
    some (Binary64.toRatio negative mantissa exponent)
  | _ => none

/-- Whether one key comes before another, if the two have an order at all. -/
def precedes? (left right : Value) : Option Bool :=
  match left, right with
  | text value, text value' => some (value < value')
  | other thing, other thing' =>
    if thing.kind = thing'.kind then some (thing.mark < thing'.mark) else none
  | null, _ | _, null | other _, _ | _, other _ => none
  | text _, _ | _, text _ => none
  | list _, _ | _, list _ | mapping _, _ | _, mapping _ => none
  | real .notANumber, _ | _, real .notANumber => some false
  | real (.infinite negative), real (.infinite negative') => some (negative && !negative')
  | real (.infinite negative), _ => some negative
  | _, real (.infinite negative) => some (!negative)
  | _, _ =>
    match left.ratio?, right.ratio? with
    | some (numerator, denominator), some (numerator', denominator') =>
      some (numerator * denominator' < numerator' * denominator)
    | _, _ => none

end Value

/-- What is to be told about unknown keys. -/
inductive UnknownKeys where
  /-- There is none. -/
  | none
  /-- They are texts: in ascending order, each once. -/
  | texts (keys : List String)
  /-- They can be ordered, and the first is no text but of this kind. -/
  | notText (kind : String)
  /-- Two of them, of these kinds, cannot be ordered. -/
  | unordered (left right : String)
  deriving DecidableEq, Repr

namespace UnknownKeys

/-- Keys each once, the first of equal ones kept. -/
def distinct (keys : List Value) : List Value :=
  keys.foldl (fun kept key => if kept.any (·.sameKey key) then kept else kept ++ [key]) []

/-- The first of keys in order, going by `least` so far. -/
def leastFrom (least : Value) : List Value → Except (Value × Value) Value
  | [] => .ok least
  | key :: rest =>
    match key.precedes? least with
    | some true => leastFrom key rest
    | some false => leastFrom least rest
    | Option.none => .error (key, least)

/-- The keys that no setting has, each once. -/
def keysOutside (known : List String) (entries : Entries) : List Value :=
  distinct ((entries.map Prod.fst).filter fun key =>
    match key.text? with
    | some text => !known.contains text
    | Option.none => true)

/-- What is to be told about the keys of a mapping. -/
def ofEntries (known : List String) (entries : Entries) : UnknownKeys :=
  match keysOutside known entries with
  | [] => .none
  | first :: rest =>
    let keys := first :: rest
    let texts := keys.filterMap Value.text?
    if texts.length = keys.length then .texts (texts.mergeSort fun a b => decide (a ≤ b))
    else
      match leastFrom first rest with
      | .ok least => .notText least.kindName
      | .error (key, least) => .unordered key.kindName least.kindName

end UnknownKeys

end Chip8
