/-
# Loosely typed values

A configuration arrives as values whose types nobody has checked: from a caller's
mapping or from a document. `Value` is the common form of both.

Documents can also hold things of which settings know nothing, such as days or raw
bytes. Such a thing is kept as what is ever asked of it.
-/

import Chip8.Number.Binary64

namespace Chip8

/-- A thing of a kind that no setting has. -/
structure Thing where
  /-- The name that messages use for its type. -/
  kind : String
  /-- What tells it from other things of its type. They come in the order of these texts. -/
  mark : String
  /-- Whether it counts as true. -/
  isTrue : Bool
  /-- The integer that it is converted to, or what is told if it cannot be. -/
  integer : Except String Int

/-- A value as a caller or a document gives it. -/
inductive Value where
  /-- Nothing. -/
  | null
  /-- A truth value. -/
  | boolean (value : Bool)
  /-- An integer of any size. -/
  | integer (value : Int)
  /-- A double-precision number. -/
  | real (value : Binary64)
  /-- A text of whole characters; half a surrogate pair is none. -/
  | text (value : String)
  /-- A list of values. -/
  | list (items : List Value)
  /-- Keys with their values, in the order written. Of two equal keys the later
  one counts. -/
  | mapping (entries : List (Value × Value))
  /-- Something else. -/
  | other (thing : Thing)
  deriving Inhabited

namespace Value

/-- The name that messages use for the type of a value. -/
def kindName : Value → String
  | null => "NoneType"
  | boolean _ => "bool"
  | integer _ => "int"
  | real _ => "float"
  | text _ => "str"
  | list _ => "list"
  | mapping _ => "dict"
  | other thing => thing.kind

/-- Whether a value counts as true. -/
def isTrue : Value → Bool
  | null => false
  | boolean value => value
  | integer value => value != 0
  | real value => value.isTrue
  | text value => value != ""
  | list items => !items.isEmpty
  | mapping entries => !entries.isEmpty
  | other thing => thing.isTrue

/-- The text of a key, if the key is a text. -/
def text? : Value → Option String
  | text value => some value
  | _ => none

end Value

/-- Keys with their values, as in a mapping. -/
abbrev Entries := List (Value × Value)

/-- The value under a text key; of several the last one counts. -/
def Entries.find? (entries : Entries) (key : String) : Option Value :=
  entries.foldl (fun found entry => if entry.1.text? = some key then some entry.2 else found) none

end Chip8
