/-
# The keypad

Sixteen keys, each held or not. The host names keys by any integer, the machine
by a register's byte; both can name a key that does not exist.
-/

import Chip8.Fault

namespace Chip8

/-- Which keys are held. -/
abbrev Keypad := Vector Bool 16

namespace Keypad

/-- Nothing is held. -/
def released : Keypad := Vector.replicate 16 false

/-- The held keys in ascending order. -/
def heldKeys (keypad : Keypad) : List (Fin 16) :=
  (List.finRange 16).filter fun key => keypad.get key

/-- The lowest held key. -/
def lowest? (keypad : Keypad) : Option (Fin 16) :=
  keypad.heldKeys.head?

/-- Whether a byte names a held key. -/
def holds (keypad : Keypad) (value : Byte) : Bool :=
  if real : value.toNat < 16 then keypad[value.toNat] else false

/-- Note that a key was pressed or released. -/
def put (keypad : Keypad) (key : Int) (pressed : Bool) : Except Fault Keypad :=
  if real : 0 ≤ key ∧ key < 16 then .ok (keypad.set key.toNat pressed)
  else .error (.noSuchKey key)

end Keypad

end Chip8
