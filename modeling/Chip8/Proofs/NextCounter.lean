/-
# Where a step leaves the counter

A step moves the counter behind its word before the operation is done, and some operations move
it once more. Jumps, calls and returns put it elsewhere, a skip moves it over one more word, and a
wait for a key moves it back. The main statement says what becomes of all this, operation by
operation, in terms of the machine before the step.

Skips come in pairs that test the same condition, one for and one against it. On one state a pair
with the same operands never agrees.
-/

import Chip8.Proofs.Calls
import Chip8.Proofs.Counter
import Chip8.Proofs.KeyWait
import Chip8.Proofs.Machine.Writes
import Chip8.Proofs.Operation.Inverse

namespace Chip8

/-- A byte is the number of a held key. -/
def Keypad.Names (keypad : Keypad) (value : Byte) : Prop :=
  ∃ key : Fin 16, key.val = value.toNat ∧ keypad.get key = true

theorem Keypad.holds_iff {keypad : Keypad} {value : Byte} :
    keypad.holds value = true ↔ keypad.Names value := by
  rw [holds]
  constructor
  · intro held
    split at held
    case isTrue real => exact ⟨⟨value.toNat, real⟩, rfl, held⟩
    case isFalse => cases held
  · rintro ⟨key, number, held⟩
    have real : value.toNat < 16 := number ▸ key.isLt
    rw [dif_pos real]
    have same : key = ⟨value.toNat, real⟩ := Fin.ext number
    rwa [same] at held

namespace Operation

/-- The operations that skip on a condition, each beside the one that skips against it. -/
def skipPairs : List (Operation × Operation) :=
  [(.skipIfByte, .skipUnlessByte), (.skipIfSame, .skipUnlessSame),
    (.skipIfHeld, .skipUnlessHeld)]

/-- The operations that skip. -/
def skips : List Operation :=
  [.skipIfByte, .skipUnlessByte, .skipIfSame, .skipUnlessSame, .skipIfHeld, .skipUnlessHeld]

/-- The operations that put the counter to another place than the words that follow. -/
def leaps : List Operation :=
  [.jump, .call, .jumpOffset, .ret]

/-- The operands that the row of an operation names are the same in two words. -/
def SameOperands (operation : Operation) (word other : Word) : Prop :=
  operation.shape.keep (Operands.ofWord other) = operation.shape.keep (Operands.ofWord word)

instance (operation : Operation) (word other : Word) :
    Decidable (operation.SameOperands word other) :=
  inferInstanceAs (Decidable (_ = _))

end Operation

namespace Machine

/-- The condition on which an operation skips. -/
def SkipCondition (machine : Machine) (word : Word) : Operation → Prop
  | .skipIfByte => machine.registers.get word.x = word.immediate
  | .skipUnlessByte => machine.registers.get word.x ≠ word.immediate
  | .skipIfSame => machine.registers.get word.x = machine.registers.get word.y
  | .skipUnlessSame => machine.registers.get word.x ≠ machine.registers.get word.y
  | .skipIfHeld => machine.keypad.Names (machine.registers.get word.x)
  | .skipUnlessHeld => ¬ machine.keypad.Names (machine.registers.get word.x)
  | _ => False

/-- The next step goes on and moves the counter by a distance. It moves it also where it
cannot be reported. -/
structure StepsBy (machine : Machine) (distance : Nat) : Prop where
  answers : machine.step.result = machine.stepAnswer .running
  counter : machine.step.machine.counter.toNat = (machine.counter.toNat + distance) % 65536

/-- Where a step that goes through leaves the counter. -/
structure MovesCounter (operation : Operation) (before after : Machine) : Prop where
  jumps : operation ∈ [.jump, .call] → after.counter.toNat = before.nextWord.toNat % 4096
  jumpsAhead : operation = .jumpOffset →
    after.counter.toNat = before.nextWord.toNat % 4096 + (before.registers.get 0).toNat
  returns : operation = .ret → before.stack.toList.getLast? = some after.counter
  waits : operation = .awaitKey → (∀ key : Fin 16, before.keypad.get key = false) →
    after.counter = before.counter
  skips : before.SkipCondition before.nextWord operation →
    after.counter.toNat = (before.counter.toNat + 4) % 65536
  movesOn : operation ∉ Operation.leaps →
    ¬ (operation = .awaitKey ∧ ∀ key : Fin 16, before.keypad.get key = false) →
    ¬ before.SkipCondition before.nextWord operation →
    after.counter.toNat = (before.counter.toNat + 2) % 65536

variable {machine : Machine} {operation : Operation}

/-! ## Skips -/

/-- An operation that skips tests its condition. -/
theorem exists_exec_of_skips (inSkips : operation ∈ Operation.skips) (machine : Machine)
    (word : Word) :
    ∃ condition : Bool, (condition = true ↔ machine.SkipCondition word operation) ∧
      exec operation word machine = goOn (machine.skipIf condition) [] := by
  cases operation with
  | skipIfByte | skipIfSame => exact ⟨_, beq_iff_eq, rfl⟩
  | skipUnlessByte | skipUnlessSame => exact ⟨_, bne_iff_ne, rfl⟩
  | skipIfHeld => exact ⟨_, Keypad.holds_iff, rfl⟩
  | skipUnlessHeld =>
    refine ⟨_, ?_, rfl⟩
    rw [Bool.not_eq_true', ← Bool.not_eq_true]
    exact not_congr Keypad.holds_iff
  | _ => exact absurd inSkips (by decide)

theorem SkipCondition.mem_skips {word : Word} (condition : machine.SkipCondition word operation) :
    operation ∈ Operation.skips := by
  cases operation with
  | skipIfByte | skipUnlessByte | skipIfSame | skipUnlessSame | skipIfHeld | skipUnlessHeld =>
    decide
  | _ => exact condition.elim

/-- A step that skips moves the counter by two words, and one that does not by one. -/
theorem Next.stepsBy (next : machine.Next operation) (inSkips : operation ∈ Operation.skips) :
    (machine.SkipCondition machine.nextWord operation → machine.StepsBy 4) ∧
      (¬ machine.SkipCondition machine.nextWord operation → machine.StepsBy 2) := by
  obtain ⟨condition, tests, done⟩ :=
    exists_exec_of_skips inSkips machine.movedOn machine.nextWord
  have runs : (exec operation machine.nextWord machine.movedOn).result = .ok .running := by
    rw [done]
    rfl
  have answers : machine.step.result = machine.stepAnswer .running := result_step_of_done next runs
  have moved := counter_movedOn machine next.inside
  have inside := next.inside
  have left : machine.step.machine.counter = (machine.movedOn.skipIf condition).counter := by
    rw [machine_step_of_done next runs, done]
    rfl
  constructor
  · intro holds
    refine ⟨answers, ?_⟩
    rw [left, tests.mpr holds]
    show (machine.movedOn.counter + 2).toNat = _
    rw [Word.toNat_add_two (by omega), moved]
    omega
  · intro fails
    refine ⟨answers, ?_⟩
    rw [left, Bool.eq_false_iff.mpr (mt tests.mp fails)]
    show machine.movedOn.counter.toNat = _
    rw [moved]
    omega

/-- Of a pair of skips with the same operands, one tests the condition and the other its
opposite. -/
theorem skipCondition_iff_not {positive negative : Operation}
    (pair : (positive, negative) ∈ Operation.skipPairs) {other : Machine}
    (registers : other.registers = machine.registers) (keypad : other.keypad = machine.keypad)
    {word otherWord : Word} (same : positive.SameOperands word otherWord) :
    other.SkipCondition otherWord negative ↔ ¬ machine.SkipCondition word positive := by
  simp only [Operation.skipPairs, List.mem_cons, Prod.mk.injEq, List.not_mem_nil, or_false] at pair
  have x : otherWord.x = word.x := by
    apply Fin.ext
    apply Int.ofNat_inj.mp
    rcases pair with ⟨rfl, _⟩ | ⟨rfl, _⟩ | ⟨rfl, _⟩
    all_goals exact congrArg Operands.x same
  rcases pair with ⟨rfl, rfl⟩ | ⟨rfl, rfl⟩ | ⟨rfl, rfl⟩
  · have immediate : otherWord.immediate = word.immediate :=
      UInt8.toNat_inj.mp (Int.ofNat_inj.mp (congrArg Operands.immediate same))
    simp only [SkipCondition, registers, x, immediate, ne_eq]
  · have y : otherWord.y = word.y := Fin.ext (Int.ofNat_inj.mp (congrArg Operands.y same))
    simp only [SkipCondition, registers, x, y, ne_eq]
  · simp only [SkipCondition, registers, keypad, x]

/-- Exactly one of a pair skips. -/
theorem Next.one_skips {positive negative : Operation}
    (pair : (positive, negative) ∈ Operation.skipPairs) {other : Machine}
    (next : machine.Next positive) (otherNext : other.Next negative)
    (registers : other.registers = machine.registers) (keypad : other.keypad = machine.keypad)
    (same : positive.SameOperands machine.nextWord other.nextWord) :
    (machine.StepsBy 4 ∧ other.StepsBy 2) ∨ (machine.StepsBy 2 ∧ other.StepsBy 4) := by
  have members : positive ∈ Operation.skips ∧ negative ∈ Operation.skips :=
    (by decide : ∀ pair ∈ Operation.skipPairs,
      pair.1 ∈ Operation.skips ∧ pair.2 ∈ Operation.skips) _ pair
  obtain ⟨skips, moves⟩ := next.stepsBy members.1
  obtain ⟨otherSkips, otherMoves⟩ := otherNext.stepsBy members.2
  have opposite := skipCondition_iff_not pair registers keypad same
  by_cases holds : machine.SkipCondition machine.nextWord positive
  · exact .inl ⟨skips holds, otherMoves fun also => opposite.mp also holds⟩
  · exact .inr ⟨moves holds, otherSkips (opposite.mpr holds)⟩

/-- No key has a number above fifteen. -/
theorem not_names_of_lt {keypad : Keypad} {value : Byte} (large : 15 < value.toNat) :
    ¬ keypad.Names value := by
  rintro ⟨key, number, _⟩
  have small := key.isLt
  omega

/-! ## All operations -/

theorem mem_counter_writers_iff (operation : Operation) :
    operation ∈ Part.counter.writers ↔
      operation ∈ Operation.leaps ∨ operation ∈ Operation.skips ∨ operation = .awaitKey := by
  cases operation with
  | _ => decide

section Went

variable (next : machine.Next operation) {status : Status}
  (went : machine.step.result = .ok status)

include next went

theorem Next.counter_of_jump (jumps : operation ∈ [.jump, .call]) :
    machine.step.machine.counter.toNat = machine.nextWord.toNat % 4096 := by
  have left := congrArg Machine.counter (machine_step_of_ok next went)
  rw [← Word.toNat_address, left]
  rw [result_step next (reportable_of_ok went)] at went
  cases operation with
  | jump => rfl
  | call =>
    obtain ⟨stack, _, done⟩ := goAndRemember_ok went
    exact congrArg (fun machine : Machine => machine.counter.toNat) done
  | _ => exact absurd jumps (by decide)

/-- A step that goes through leaves the counter where its operation says. -/
theorem Next.movesCounter : machine.MovesCounter operation machine.step.machine where
  jumps := next.counter_of_jump went
  jumpsAhead := by
    rintro rfl
    rw [machine_step_of_ok next went]
    exact toNat_jumpAhead machine.nextWord (machine.registers.get 0)
  returns := by
    rintro rfl
    have left := congrArg Machine.counter (machine_step_of_ok next went)
    rw [result_step next (reportable_of_ok went)] at went
    obtain ⟨target, stack, popped, done⟩ := goBack_ok went
    have reached : machine.step.machine.counter = target :=
      left.trans (congrArg Machine.counter done)
    have live : machine.stack.toList = stack.toList ++ [target] := ReturnStack.toList_pop popped
    rw [reached, live, List.getLast?_concat]
  waits := by
    rintro rfl released
    have waits : machine.Waits := ⟨next, Keypad.lowest?_eq_none_iff.mpr released⟩
    rw [waits.machine_step]
  skips condition := ((next.stepsBy condition.mem_skips).1 condition).counter
  movesOn := by
    intro noLeap noWait fails
    have on : (machine.counter + 2).toNat = (machine.counter.toNat + 2) % 65536 :=
      UInt16.toNat_add machine.counter 2
    by_cases inSkips : operation ∈ Operation.skips
    · exact ((next.stepsBy inSkips).2 fails).counter
    · by_cases asks : operation = .awaitKey
      · subst asks
        cases lowest : machine.keypad.lowest? with
        | none => exact absurd ⟨rfl, Keypad.lowest?_eq_none_iff.mp lowest⟩ noWait
        | some key =>
          rw [machine_step_of_held lowest next]
          exact on
      · -- any other operation leaves the counter where the step has moved it
        have unwritten : operation ∉ Part.counter.writers := by
          rw [mem_counter_writers_iff]
          rintro (leap | skip | asked)
          · exact noLeap leap
          · exact inSkips skip
          · exact asks asked
        rw [(next.footprint went).counter unwritten]
        exact on

end Went

/-- A step that goes through leaves the counter at the address of a jump or a call, ahead of it
by V0, at the return address that was remembered last, on the word itself while it waits for a
key, behind the next word if it skips that, and otherwise behind its own word. Of a pair of
skips with opposite conditions exactly one skips on the same registers and keys with the same
operands, and no byte above fifteen counts as a held key. A machine of plain integers takes the
same step. -/
theorem step_moves_counter {machine : Machine} (wellFormed : machine.WellFormed) :
    (∀ status, machine.step.result = .ok status →
      ∃ operation, machine.Next operation ∧
        machine.MovesCounter operation machine.step.machine ∧
        RawMachine.step.run machine.toRaw = .ok status machine.step.machine.toRaw) ∧
    (∀ value stack, machine.stack.push value = .ok stack →
      stack.toList.getLast? = some (Word.ofInt value)) ∧
    (∀ (other : Machine) positive negative, (positive, negative) ∈ Operation.skipPairs →
      other.registers = machine.registers → other.keypad = machine.keypad →
      machine.Next positive → other.Next negative →
      positive.SameOperands machine.nextWord other.nextWord →
      (machine.StepsBy 4 ∧ other.StepsBy 2) ∨ (machine.StepsBy 2 ∧ other.StepsBy 4)) ∧
    (15 < (machine.registers.get machine.nextWord.x).toNat →
      (machine.Next .skipIfHeld → machine.StepsBy 2) ∧
      (machine.Next .skipUnlessHeld → machine.StepsBy 4)) := by
  refine ⟨?_, ?_, ?_, ?_⟩
  · intro status went
    obtain ⟨operation, next⟩ := exists_next went
    refine ⟨operation, next, next.movesCounter went, ?_⟩
    rw [run_step machine wellFormed.depth_le, Outcome.toRaw, went]
    rfl
  · intro value stack pushed
    rw [ReturnStack.toList_push pushed, List.getLast?_concat]
  · intro other positive negative pair registers keypad next otherNext same
    exact next.one_skips pair otherNext registers keypad same
  · intro large
    have unnamed : ¬ machine.keypad.Names (machine.registers.get machine.nextWord.x) :=
      not_names_of_lt large
    exact ⟨fun next => (next.stepsBy (by decide)).2 unnamed,
      fun next => (next.stepsBy (by decide)).1 unnamed⟩

/-- A return takes the last of two addresses that were pushed, cut to sixteen bits. A skip for
key 9 moves on by two words where one against it moves on by one. -/
theorem step_moves_counter_of_return_and_key :
    let returning := (bare [0x00, 0xEE]).after [.push 0x300, .push 0x1ABCD]
    let asking := { bare [0xE3, 0x9E] with
      registers := (Vector.replicate 16 0).set 3 9
      keypad := Keypad.released.set 9 true }
    let other := { asking with memory := (bare [0xE3, 0xA1]).memory }
    returning.WellFormed ∧ returning.step.result = .ok .running ∧
      returning.step.machine.counter = 0xABCD ∧
      asking.WellFormed ∧ asking.Next .skipIfHeld ∧ other.Next .skipUnlessHeld ∧
      asking.StepsBy 4 ∧ other.StepsBy 2 := by
  intro returning asking other
  have returnFormed : returning.WellFormed := (wellFormed_bare _).after _
  have askFormed : asking.WellFormed := ⟨by decide, by decide⟩
  have returned : returning.step.result = .ok .running := by decide +kernel
  have next : returning.Next .ret := by decide +kernel
  have asks : asking.Next .skipIfHeld := by decide +kernel
  have otherAsks : other.Next .skipUnlessHeld := by decide +kernel
  obtain ⟨operation, same, moves, _⟩ := (step_moves_counter returnFormed).1 .running returned
  cases same.unique next
  have last : returning.stack.toList.getLast? = some 0xABCD := by decide +kernel
  have popped := (moves.returns rfl).symm.trans last
  have differ : ¬ asking.step.machine.counter.toNat = (asking.counter.toNat + 2) % 65536 := by
    decide +kernel
  have same : Operation.skipIfHeld.SameOperands asking.nextWord other.nextWord := by
    decide +kernel
  obtain ⟨_, _, pairs, _⟩ := step_moves_counter askFormed
  rcases pairs other .skipIfHeld .skipUnlessHeld (by decide) rfl rfl asks otherAsks same with
    ⟨skips, moved⟩ | ⟨moved, _⟩
  · exact ⟨returnFormed, returned, Option.some.inj popped, askFormed, asks, otherAsks, skips,
      moved⟩
  · exact absurd moved.counter differ

end Machine

end Chip8
