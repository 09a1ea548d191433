/-
# Calls and their returns

A call puts the address behind it into the first free slot. Whatever happens until
the stack is as shallow again, no slot below the depth in between is written: calls
in between write higher slots, returns write none, and nothing else touches the
stack. So the return that brings the stack back finds the address where the call put
it, whatever code ran in between and however it came there.

The invariant of the part in between is that the slots up to and including the one
the call wrote keep their words for as long as all of them are live.
-/

import Chip8.Proofs.Machine.WellFormed
import Mathlib.Control.Monad.Basic
import Mathlib.Logic.Relation

namespace Chip8.Machine

/-! ## A call and a return -/

variable {machine : Machine}

theorem goAndRemember_ok {target : Word} {status : Status}
    (went : (machine.goAndRemember target).result = .ok status) :
    ∃ stack, machine.stack.push machine.counter.toNat = .ok stack ∧
      (machine.goAndRemember target).machine =
        { machine with stack := stack, counter := target } := by
  unfold goAndRemember at went ⊢
  cases pushed : machine.stack.push machine.counter.toNat with
  | error fault =>
    rw [pushed] at went
    cases went
  | ok stack => exact ⟨stack, rfl, rfl⟩

theorem goBack_ok {status : Status} (went : machine.goBack.result = .ok status) :
    ∃ target stack, machine.stack.pop = .ok (target, stack) ∧
      machine.goBack.machine = { machine with stack := stack, counter := target } := by
  unfold goBack at went ⊢
  rcases popped : machine.stack.pop with fault | ⟨target, stack⟩
  · rw [popped] at went
    cases went
  · exact ⟨target, stack, rfl, rfl⟩

/-- A call leaves one more live slot, which holds the address behind the call. -/
theorem step_call (calls : machine.Next .call) {status : Status}
    (went : machine.step.result = .ok status) :
    machine.step.machine.stack.depth = machine.stack.depth + 1 ∧
      ∃ free : machine.stack.depth < 16,
        machine.step.machine.stack.slots[machine.stack.depth] = machine.counter + 2 := by
  have left := machine_step_of_ok calls went
  rw [result_step calls (reportable_of_ok went)] at went
  obtain ⟨stack, pushed, done⟩ := goAndRemember_ok went
  have reached : machine.step.machine.stack = stack := by
    rw [left]
    exact congrArg Machine.stack done
  obtain ⟨free, deeper⟩ := ReturnStack.depth_push pushed
  have top := ReturnStack.top_push pushed free
  rw [reached]
  refine ⟨deeper, free, ?_⟩
  exact top.trans (Word.ofInt_toNat (machine.counter + 2))

/-- A return goes to the word of the highest live slot. -/
theorem step_ret (returns : machine.Next .ret) {status : Status}
    (went : machine.step.result = .ok status) :
    machine.stack.depth = machine.step.machine.stack.depth + 1 ∧
      ∃ inside : machine.step.machine.stack.depth < 16,
        machine.step.machine.counter =
          machine.stack.slots[machine.step.machine.stack.depth] := by
  have left := machine_step_of_ok returns went
  rw [result_step returns (reportable_of_ok went)] at went
  obtain ⟨target, stack, popped, done⟩ := goBack_ok went
  have reached : machine.step.machine.stack = stack := by
    rw [left]
    exact congrArg Machine.stack done
  have arrived : machine.step.machine.counter = target := by
    rw [left]
    exact congrArg Machine.counter done
  obtain ⟨_, shallower, inside, value⟩ := ReturnStack.pop_eq_ok popped
  rw [reached, arrived]
  exact ⟨shallower, inside, value⟩

/-! ## In between -/

/-- What may happen between a call and its return: steps that go through, timer
periods, keys, and programs loaded over the running one. -/
inductive Move : Machine → Machine → Prop
  | step {machine : Machine} {status : Status} (went : machine.step.result = .ok status) :
    Move machine machine.step.machine
  | tickTimers (machine : Machine) : Move machine machine.tickTimers.machine
  | setKey (machine : Machine) (key : Int) (pressed : Bool) :
    Move machine (machine.setKey key pressed).machine
  | load (machine : Machine) (program : List Byte) : Move machine (machine.load program).machine

/-- A move that leaves the stack deeper than it was before a call. -/
def DeepMove (floor : Nat) (before after : Machine) : Prop :=
  Move before after ∧ floor + 1 ≤ after.stack.depth

theorem stack_setKey (key : Int) (pressed : Bool) :
    (machine.setKey key pressed).machine.stack = machine.stack := by
  unfold setKey
  cases machine.keypad.put key pressed with
  | error fault => rfl
  | ok keypad => rfl

theorem stack_load (program : List Byte) :
    (machine.load program).machine.stack = machine.stack := by
  unfold load
  split
  · rfl
  · rfl

theorem lowest_move {before after : Machine} (move : Move before after) {count : Nat}
    (live : count ≤ before.stack.depth) :
    after.stack.lowest count = before.stack.lowest count := by
  cases move with
  | step went => exact lowest_step before live
  | tickTimers => rfl
  | setKey key pressed => rw [stack_setKey]
  | load program => rw [stack_load]

theorem lowest_of_path {floor : Nat} {start finish : Machine}
    (path : Relation.ReflTransGen (DeepMove floor) start finish)
    (deep : floor + 1 ≤ start.stack.depth) :
    floor + 1 ≤ finish.stack.depth ∧
      finish.stack.lowest (floor + 1) = start.stack.lowest (floor + 1) := by
  induction path with
  | refl => exact ⟨deep, rfl⟩
  | tail _ move ih =>
    -- the slots were all live before the move, so it cannot have written them
    obtain ⟨moved, still_deep⟩ := move
    obtain ⟨live, kept⟩ := ih
    exact ⟨still_deep, (lowest_move moved live).trans kept⟩

/-! ## The return finds its call -/

/-- A return that brings the stack back to where it was before a call goes to the address
behind the call and finds the slots below as they were; and nothing but calls and
returns changes the stack at all. -/
theorem call_returns {machine last : Machine} {called returned : Status}
    (calls : machine.Next .call) (call : machine.step.result = .ok called)
    (body : Relation.ReflTransGen (DeepMove machine.stack.depth) machine.step.machine last)
    (returns : last.Next .ret) (ret : last.step.result = .ok returned)
    (back : last.step.machine.stack.depth = machine.stack.depth) :
    last.step.machine.counter.toNat = (machine.counter.toNat + 2) % 65536 ∧
      (∀ slot (_ : slot < 16), slot < machine.stack.depth →
        last.step.machine.stack.slots[slot] = machine.stack.slots[slot]) ∧
      (∀ other : Machine, ¬ other.Next .call → ¬ other.Next .ret →
        other.step.machine.stack = other.stack) ∧
      ∀ (operation : Operation) (word : Word) (other : Machine), operation ≠ .call →
        operation ≠ .ret → (exec operation word other).machine.stack = other.stack := by
  obtain ⟨deeper, free, remembered⟩ := step_call calls call
  obtain ⟨live, kept⟩ := lowest_of_path body (Nat.le_of_eq deeper.symm)
  refine ⟨?_, ?_, fun other => stack_step other,
    fun operation word other notCall notRet => (sameStack_exec other word notCall notRet).stack⟩
  · obtain ⟨_, inside, arrived⟩ := step_ret returns ret
    simp only [back] at arrived
    have same := ReturnStack.getElem_eq_of_lowest kept free (Nat.lt_succ_self _)
    rw [arrived, same, remembered, UInt16.toNat_add]
    rfl
  · intro slot inside low
    have before : machine.step.machine.stack.lowest machine.stack.depth =
        machine.stack.lowest machine.stack.depth := lowest_step machine (Nat.le_refl _)
    have between := ReturnStack.lowest_of_le (Nat.le_succ machine.stack.depth) kept
    have after : last.step.machine.stack.lowest machine.stack.depth =
        last.stack.lowest machine.stack.depth := lowest_step last (Nat.le_of_succ_le live)
    exact ReturnStack.getElem_eq_of_lowest (after.trans (between.trans before)) inside low

/-- A call at 0x200, a call within it, a timer period, and both returns. -/
theorem call_returns_through_nested_call :
    let machine := bare [0x22, 0x04, 0x12, 0x02, 0x22, 0x08, 0x00, 0xEE, 0x00, 0xEE]
    let nested := machine.step.machine.step.machine
    let last := nested.tickTimers.machine.step.machine
    last.step.machine.counter.toNat = 0x202 := by
  intro machine nested last
  have evaluated : (machine.step.result = .ok .running ∧
      machine.step.machine.step.result = .ok .running ∧
      nested.tickTimers.machine.step.result = .ok .running ∧
      last.step.result = .ok .running) ∧
      (machine.counter.toNat ≤ 0xFFE ∧ decode machine.nextWord = some .call) ∧
      (last.counter.toNat ≤ 0xFFE ∧ decode last.nextWord = some .ret) ∧
      machine.stack.depth + 1 ≤ nested.stack.depth ∧
      machine.stack.depth + 1 ≤ last.stack.depth ∧
      last.step.machine.stack.depth = machine.stack.depth := by decide +kernel
  obtain ⟨⟨call, inner_call, inner_ret, ret⟩, calls, returns, deep, still_deep, back⟩ := evaluated
  have body : Relation.ReflTransGen (DeepMove machine.stack.depth) machine.step.machine last :=
    .tail (.tail (.tail .refl ⟨.step inner_call, deep⟩) ⟨.tickTimers nested, deep⟩)
      ⟨.step inner_ret, still_deep⟩
  have matched := call_returns ⟨calls.1, calls.2⟩ call body ⟨returns.1, returns.2⟩ ret back
  exact matched.1

end Chip8.Machine
