/-
# The return stack

Sixteen slots and a depth. The live entries are the slots below the depth; a
slot at or above it keeps whatever was last written there and is never read
before it is written again.
-/

import Chip8.Fault

namespace Chip8

/-- Return addresses, and how many of them are live. -/
structure ReturnStack where
  /-- All slots, live or not. -/
  slots : Vector Word 16
  /-- The number of live slots. -/
  depth : Nat
  deriving DecidableEq

namespace ReturnStack

/-- The stack without live entries, all slots zero. -/
def empty : ReturnStack := ⟨Vector.replicate 16 0, 0⟩

/-- The live entries, the oldest first. -/
def toList (stack : ReturnStack) : List Word :=
  stack.slots.toList.take stack.depth

/-- Put the low sixteen bits of a value on top. -/
def push (stack : ReturnStack) (value : Int) : Except Fault ReturnStack :=
  if free : stack.depth < 16 then
    .ok ⟨stack.slots.set stack.depth (Word.ofInt value), stack.depth + 1⟩
  else .error (.stackFull value)

/-- Take the top entry off. -/
def pop (stack : ReturnStack) : Except Fault (Word × ReturnStack) :=
  if live : 0 < stack.depth ∧ stack.depth ≤ 16 then
    .ok (stack.slots[stack.depth - 1], ⟨stack.slots, stack.depth - 1⟩)
  else .error .stackEmpty

/-! ## The stack as a list -/

/-- A push that goes through appends to the live entries. -/
theorem toList_push {stack next : ReturnStack} {value : Int}
    (pushed : stack.push value = .ok next) :
    next.toList = stack.toList ++ [Word.ofInt value] := by
  unfold push at pushed
  split at pushed
  case isTrue free =>
    cases pushed
    simp only [toList, Vector.toList_set]
    rw [List.take_add_one, List.take_set_of_le (Nat.le_refl _)]
    simp [free]
  case isFalse => cases pushed

/-- A pop that goes through takes the last of the live entries. -/
theorem toList_pop {stack next : ReturnStack} {value : Word}
    (popped : stack.pop = .ok (value, next)) :
    stack.toList = next.toList ++ [value] := by
  unfold pop at popped
  split at popped
  case isTrue live =>
    cases popped
    have one : stack.depth = (stack.depth - 1) + 1 := by omega
    have inside : stack.depth - 1 < 16 := by omega
    simp only [toList]
    conv => lhs; rw [one, List.take_add_one]
    simp [inside]
  case isFalse => cases popped

end ReturnStack

end Chip8
