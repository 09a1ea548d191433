/-
# Runs that do not look at an input

What is true of a step is true of a turn and of a run: as long as no step on its way looks at an
input, a run gives the same answer for every value of it and leaves machines that are alike but
for it. Where the input is the timers, the ratio may be another one too, as long as neither is
zero: when the timers tick then makes no difference, because it is only to the timers.

The note of the last operation is not such an input. No operation looks at it, but the run does.
-/

import Chip8.Proofs.Machine.Reads
import Chip8.Proofs.Run.Trail

namespace Chip8.Machine

/-- Ratios with which runs of machines that are alike but for an input stay alike. -/
def Comparable (input : Input) (ratio other : Int) : Prop :=
  other = ratio ∨ input = .timers ∧ ratio ≠ 0 ∧ other ≠ 0

theorem Comparable.eq_zero_iff {input : Input} {ratio other : Int}
    (comparable : Comparable input ratio other) : other = 0 ↔ ratio = 0 := by
  rcases comparable with rfl | ⟨_, nonzero, nonzero_too⟩
  · rfl
  · exact iff_of_false nonzero_too nonzero

theorem alike_tickTimers (machine : Machine) : Alike .timers machine machine.tickTimers.machine :=
  rfl

theorem alike_turned (machine : Machine) (ratio : Int) :
    Alike .timers machine.step.machine (machine.turned ratio) := by
  rcases turned_cases machine ratio with same | ticked
  · rw [same]
    exact .refl .timers machine.step.machine
  · rw [ticked]
    exact alike_tickTimers machine.step.machine

theorem alike_turn (machine : Machine) (ratio : Int) :
    Alike .timers machine.step.machine (machine.turn ratio).machine := by
  rcases machine_turn ratio machine with same | ticked
  · rw [same]
    exact .refl .timers machine.step.machine
  · rw [ticked]
    exact alike_tickTimers machine.step.machine

namespace Alike

variable {input : Input} {first second : Machine}

theorem symm (alike : Alike input first second) : Alike input second first :=
  Eq.symm alike

theorem trans {third : Machine} (alike : Alike input first second)
    (more : Alike input second third) : Alike input first third :=
  Eq.trans more alike

theorem turned {ratio other : Int} (stepped : Alike input first.step.machine second.step.machine)
    (comparable : Comparable input ratio other) :
    Alike input (first.turned ratio) (second.turned other) := by
  rcases comparable with rfl | ⟨rfl, _, _⟩
  · by_cases due : first.step.machine.tick % other = 0
    · have due_too : second.step.machine.tick % other = 0 := stepped.tick ▸ due
      rw [turned_of_due first due, turned_of_due second due_too]
      exact stepped.tickTimers
    · have early : second.step.machine.tick % other ≠ 0 := stepped.tick ▸ due
      rw [turned_of_not_due first due, turned_of_not_due second early]
      exact stepped
  · exact ((alike_turned first ratio).symm.trans stepped).trans (alike_turned second other)

variable (alike : Alike input first second)

include alike

/-- Whether a step ends a run is the same for machines that are alike. -/
theorem ending (apart : input ≠ .note) (origin : Word) (status : Status) :
    (second.ending? origin status).map Prod.fst = (first.ending? origin status).map Prod.fst := by
  rw [ending?, ending?, alike.last apart, alike.counter]
  split_ifs
  · rfl
  · rfl
  · rfl

section Turn

variable {ratio other : Int} (comparable : Comparable input ratio other)

include comparable

/-- Turns answer the same and leave machines alike if their steps do. -/
theorem turn_of_step (answer : second.step.result = first.step.result)
    (stepped : Alike input first.step.machine second.step.machine) (apart : input ≠ .note) :
    (second.turn other).result = (first.turn ratio).result ∧
      Alike input (first.turn ratio).machine (second.turn other).machine := by
  cases result : first.step.result with
  | error fault =>
    rw [turn_of_error result, turn_of_error (answer.trans result)]
    exact ⟨rfl, stepped⟩
  | ok status =>
    have result_too := answer.trans result
    by_cases zero : ratio = 0
    · rw [comparable.eq_zero_iff.mpr zero, zero, turn_of_zero_ratio result,
        turn_of_zero_ratio result_too]
      exact ⟨rfl, stepped⟩
    · have nonzero : other ≠ 0 := mt comparable.eq_zero_iff.mp zero
      rw [result_turn_of_ok zero result, result_turn_of_ok nonzero result_too,
        machine_turn_of_ok zero result, machine_turn_of_ok nonzero result_too, alike.counter,
        stepped.ending apart]
      exact ⟨rfl, stepped.turned comparable⟩

/-- A turn whose step does not look at the input answers the same on both machines. -/
theorem turn (not_memory : input ≠ .memory) (not_quiet : input ≠ .quiet)
    (not_note : input ≠ .note) (unread : ¬ first.Consults input) :
    (second.turn other).result = (first.turn ratio).result ∧
      Alike input (first.turn ratio).machine (second.turn other).machine := by
  obtain ⟨answer, stepped⟩ := alike.step not_memory not_quiet unread
  exact alike.turn_of_step comparable answer stepped not_note

end Turn

/-- A run on whose way no step looks at the input answers the same on both machines. -/
theorem run {limit : Int} {pace other : Pace} (not_memory : input ≠ .memory)
    (not_quiet : input ≠ .quiet) (not_note : input ≠ .note)
    (pause : other.pauseTick = pace.pauseTick)
    (comparable : Comparable input pace.stepsPerTimerTick other.stepsPerTimerTick)
    (unread : ∀ before ∈ first.trail limit pace, ¬ before.Consults input) :
    (second.run limit other).result = (first.run limit pace).result ∧
      Alike input (first.run limit pace).machine (second.run limit other).machine :=
  run_pair (fun _ => Alike input) (fun _ _ => ()) () pause (fun alike => alike.tick)
    (fun alike unread => alike.turn comparable not_memory not_quiet not_note unread) alike unread

end Alike

end Chip8.Machine
