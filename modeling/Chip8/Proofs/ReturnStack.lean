/-
# Slots that pushing and popping leave alone

A push writes the first slot above the live ones and a pop writes none at all. So
the slots below the depth stay what they are for as long as the depth does not
fall below them, however often the slots above are pushed and popped.

`lowest` speaks of slots rather than of live entries, because a slot outlives its
entry: it keeps its word until the next push to it.
-/

import Chip8.ReturnStack

namespace Chip8.ReturnStack

variable {stack next : ReturnStack}

/-- The lowest slots, live or not. -/
def lowest (stack : ReturnStack) (count : Nat) : List Word :=
  stack.slots.toList.take count

theorem getElem_eq_of_lowest {count : Nat} (same : next.lowest count = stack.lowest count)
    {slot : Nat} (inside : slot < 16) (low : slot < count) :
    next.slots[slot] = stack.slots[slot] := by
  have found : (next.lowest count)[slot]? = (stack.lowest count)[slot]? := by rw [same]
  simpa [lowest, low, inside] using found

theorem lowest_of_le {few many : Nat} (fewer : few ≤ many)
    (same : next.lowest many = stack.lowest many) : next.lowest few = stack.lowest few := by
  have shorter := congrArg (List.take few) same
  rwa [lowest, lowest, List.take_take, List.take_take, Nat.min_eq_left fewer] at shorter

/-! ## Pushing -/

section Push

variable {value : Int}

theorem push_of_lt (free : stack.depth < 16) :
    stack.push value =
      .ok ⟨stack.slots.set stack.depth (Word.ofInt value), stack.depth + 1⟩ :=
  dif_pos free

theorem push_of_le (full : 16 ≤ stack.depth) : stack.push value = .error (.stackFull value) :=
  dif_neg (Nat.not_lt.mpr full)

theorem depth_push (pushed : stack.push value = .ok next) :
    stack.depth < 16 ∧ next.depth = stack.depth + 1 := by
  by_cases free : stack.depth < 16
  · rw [push_of_lt free] at pushed
    cases pushed
    exact ⟨free, rfl⟩
  · rw [push_of_le (Nat.not_lt.mp free)] at pushed
    cases pushed

theorem lowest_push (pushed : stack.push value = .ok next) {count : Nat}
    (live : count ≤ stack.depth) : next.lowest count = stack.lowest count := by
  have free := (depth_push pushed).1
  rw [push_of_lt free] at pushed
  cases pushed
  rw [lowest, lowest, Vector.toList_set, List.take_set_of_le live]

theorem top_push (pushed : stack.push value = .ok next) (free : stack.depth < 16) :
    next.slots[stack.depth] = Word.ofInt value := by
  rw [push_of_lt free] at pushed
  cases pushed
  exact Vector.getElem_set_self free

end Push

/-! ## Popping -/

section Pop

variable {value : Word}

theorem pop_of_live (live : 0 < stack.depth) (bounded : stack.depth ≤ 16) :
    stack.pop = .ok (stack.slots[stack.depth - 1], ⟨stack.slots, stack.depth - 1⟩) :=
  dif_pos ⟨live, bounded⟩

theorem pop_of_empty (empty : stack.depth = 0) : stack.pop = .error .stackEmpty := by
  have dead : ¬ (0 < stack.depth ∧ stack.depth ≤ 16) := by
    rw [empty]
    exact fun live => absurd live.1 (Nat.lt_irrefl 0)
  exact dif_neg dead

/-- A pop that goes through takes the highest live slot and writes none. -/
theorem pop_eq_ok (popped : stack.pop = .ok (value, next)) :
    next.slots = stack.slots ∧ stack.depth = next.depth + 1 ∧
      ∃ inside : next.depth < 16, value = stack.slots[next.depth] := by
  unfold pop at popped
  split at popped
  case isTrue live =>
    cases popped
    have inside : stack.depth - 1 < 16 := by omega
    exact ⟨rfl, (Nat.succ_pred_eq_of_pos live.1).symm, inside, rfl⟩
  case isFalse => cases popped

theorem lowest_pop (popped : stack.pop = .ok (value, next)) (count : Nat) :
    next.lowest count = stack.lowest count := by
  rw [lowest, lowest, (pop_eq_ok popped).1]

end Pop

end Chip8.ReturnStack
