/-
# What a run keeps

A run is steps with timer periods between them. Whatever holds of a machine and is
kept by every step and by every timer period therefore holds of the machine that a
run leaves, however the run ends.
-/

import Chip8.Machine.Run
import Chip8.Proofs.Machine.Step

namespace Chip8.Machine

/-- A turn leaves what its step leaves, with or without a timer period after it. -/
theorem machine_turn (ratio : Int) (machine : Machine) :
    (machine.turn ratio).machine = machine.step.machine ∨
      (machine.turn ratio).machine = machine.step.machine.tickTimers.machine := by
  unfold turn tickTimersEvery
  rcases machine.step with ⟨fault | status, stepped, events⟩
  · exact .inl rfl
  · by_cases zero : ratio = 0
    · left
      simp only [zero, ↓reduceIte]
    · by_cases due : stepped.tick % ratio = 0
      · simp only [zero, due, ↓reduceIte, Machine.tickTimers]
        right
        split
        · rfl
        · rfl
      · simp only [zero, due, ↓reduceIte]
        left
        split
        · rfl
        · rfl

/-- A turn that goes through raises the tick by one. -/
theorem tick_turn {ratio : Int} {machine : Machine} {ended : Option RunEnd}
    (went : (machine.turn ratio).result = .ok ended) :
    (machine.turn ratio).machine.tick = machine.tick + 1 := by
  rcases stepped : machine.step with ⟨fault | status, left, events⟩
  · rw [turn, stepped] at went
    cases went
  · have counted : machine.step.machine.tick = machine.tick + 1 :=
      tick_step_of_ok (congrArg Outcome.result stepped)
    rw [← counted]
    rcases machine_turn ratio machine with same | ticked
    · rw [same]
    · rw [ticked]
      rfl

section Invariant

variable (holds : Machine → Prop)
  (step : ∀ machine, holds machine → holds machine.step.machine)
  (tickTimers : ∀ machine, holds machine → holds machine.tickTimers.machine)

include step tickTimers

theorem turn_preserves (ratio : Int) {machine : Machine} (before : holds machine) :
    holds (machine.turn ratio).machine := by
  have stepped := step machine before
  rcases machine_turn ratio machine with left | left
  · rw [left]
    exact stepped
  · rw [left]
    exact tickTimers _ stepped

theorem runFor_preserves (pace : Pace) (turns : Nat) (log : List Event) {machine : Machine}
    (before : holds machine) : holds (runFor pace turns log machine).machine := by
  induction turns generalizing log machine with
  | zero => exact before
  | succ turns ih =>
    have turned := turn_preserves holds step tickTimers pace.stepsPerTimerTick before
    rw [runFor]
    split
    · exact before
    · split
      all_goals
        rename_i result
        rw [result] at turned
      · exact turned
      · exact turned
      · exact ih _ turned

theorem run_preserves (limit : Int) (pace : Pace) {machine : Machine} (before : holds machine) :
    holds (machine.run limit pace).machine :=
  runFor_preserves holds step tickTimers pace _ [] before

end Invariant

end Chip8.Machine
