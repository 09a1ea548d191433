/-
# Timers during a run

A run lets a timer period pass after each step that brings the tick to a multiple of
the ratio. Counted over a whole run these are the multiples of the ratio that the tick
has come to, from the one where it started to the one where it ended, whatever the
program did in between and however the run ended. Only a run that cannot report its last
step is another matter: that step raises the tick and is not followed by a timer period.

Both timers count these periods down to zero, as long as no instruction sets them, and
the end of the sound is reported where its timer comes to zero and nowhere else.
-/

import Chip8.Proofs.Machine.Footprint
import Chip8.Proofs.Raw.Simulation.Host
import Chip8.Proofs.Run.Loop
import Mathlib.Data.Int.Lemmas

namespace Chip8

/-! ## Counting timer periods -/

/-- Whether a command lets a timer period pass. -/
def Command.ticksTimers : Command → Bool
  | .tickTimers => true
  | _ => false

/-- The number of multiples of a ratio grows where a multiple is reached. -/
theorem ediv_succ {ratio : Int} (positive : 0 < ratio) (tick : Int) :
    (tick + 1) / ratio = tick / ratio + if (tick + 1) % ratio = 0 then 1 else 0 := by
  have parts := Int.emod_add_mul_ediv tick ratio
  have nonneg := Int.emod_nonneg tick (Int.ne_of_gt positive)
  have less := Int.emod_lt_of_pos tick positive
  rcases Int.lt_or_eq_of_le (Int.add_one_le_of_lt less) with inside | full
  · have both : (tick + 1) / ratio = tick / ratio ∧ (tick + 1) % ratio = tick % ratio + 1 :=
      (Int.ediv_emod_unique positive).mpr ⟨by omega, by omega, inside⟩
    rw [both.1, both.2, if_neg (by omega), Int.add_zero]
  · have both : (tick + 1) / ratio = tick / ratio + 1 ∧ (tick + 1) % ratio = 0 :=
      (Int.ediv_emod_unique positive).mpr ⟨by rw [Int.mul_add]; omega, Int.le_refl 0, positive⟩
    rw [both.1, if_pos both.2]

namespace Machine

/-! ## The calls of a run -/

/-- The calls of so many turns, one turn after another. -/
def calls (ratio : Int) (machine : Machine) : Nat → List Command
  | 0 => []
  | turns + 1 => machine.turnCalls ratio ++ calls ratio (machine.turned ratio) turns

/-- The calls of a loop in which so many steps go through: those of the turns, and the step
that fails if one does. -/
def loopCalls (ratio : Int) (machine : Machine) (steps : Nat) : Except Fault RunEnd → List Command
  | .ok _ => calls ratio machine steps
  | .error _ => calls ratio machine steps ++ [.step]

/-- The number of timer periods in so many turns. -/
def periods (ratio : Int) (machine : Machine) (turns : Nat) : Nat :=
  (calls ratio machine turns).countP Command.ticksTimers

variable {machine left : Machine} {ratio limit : Int} {pace : Pace} {turns steps : Nat}
  {result : Except Fault RunEnd}

theorem after_append (machine : Machine) (first second : List Command) :
    machine.after (first ++ second) = (machine.after first).after second :=
  List.foldl_append

theorem reports_append (machine : Machine) (first second : List Command) :
    machine.reports (first ++ second) =
      machine.reports first ++ (machine.after first).reports second := by
  induction first generalizing machine with
  | nil => rfl
  | cons command rest ih =>
    rw [List.cons_append, reports, reports, ih, List.append_assoc]
    rfl

theorem after_calls (ratio : Int) (machine : Machine) (turns : Nat) :
    machine.after (calls ratio machine turns) = course ratio machine turns := by
  induction turns generalizing machine with
  | zero => rfl
  | succ turns ih => rw [calls, after_append, course, ← ih]; rfl

/-- A loop leaves what its calls lead to. -/
theorem Loop.left_eq (loop : Loop limit pace machine steps result left) :
    left = machine.after (loopCalls pace.stepsPerTimerTick machine steps result) := by
  rcases loop.left_cases with ⟨ending, rfl, rfl⟩ | ⟨fault, rfl, _, rfl⟩
  · exact (after_calls _ machine steps).symm
  · rw [loopCalls, after_append, after_calls]
    rfl

/-! ## The number of timer periods -/

theorem countP_turnCalls (machine : Machine) (ratio : Int) :
    (machine.turnCalls ratio).countP Command.ticksTimers =
      if machine.step.machine.tick % ratio = 0 then 1 else 0 := by
  rw [turnCalls]
  split
  · rfl
  · rfl

theorem periods_succ (ratio : Int) (machine : Machine) (turns : Nat) :
    periods ratio machine (turns + 1) =
      (if machine.step.machine.tick % ratio = 0 then 1 else 0) +
        periods ratio (machine.turned ratio) turns := by
  rw [periods, calls, List.countP_append, countP_turnCalls]
  rfl

theorem countP_loopCalls (ratio : Int) (machine : Machine) (steps : Nat)
    (result : Except Fault RunEnd) :
    (loopCalls ratio machine steps result).countP Command.ticksTimers =
      periods ratio machine steps := by
  cases result with
  | ok ending => rfl
  | error fault =>
    rw [loopCalls, List.countP_append]
    rfl

/-- A run ends by an answer or by a fault of the machine, and so not for want of a report. -/
def EndsReported (result : Except Fault RunEnd) : Prop :=
  ∀ fault, result = .error fault → fault.isMachineFault = true

/-- Turns whose steps go through let as many timer periods pass as there are multiples of
the ratio on the way of the tick. -/
theorem periods_eq (positive : 0 < ratio)
    (went : ∀ turn < turns, ∃ status, (course ratio machine turn).step.result = .ok status) :
    (periods ratio machine turns : Int) =
      (course ratio machine turns).tick / ratio - machine.tick / ratio := by
  induction turns generalizing machine with
  | zero => exact (Int.sub_self _).symm
  | succ turns ih =>
    obtain ⟨status, first⟩ := went 0 (Nat.zero_lt_succ turns)
    have counted : machine.step.machine.tick = machine.tick + 1 := tick_step_of_ok first
    have rest := ih fun turn less => went (turn + 1) (Nat.succ_lt_succ less)
    rw [tick_turned, counted, ediv_succ positive] at rest
    rw [periods_succ, counted, course]
    push_cast
    omega

theorem Loop.periods_eq (positive : 0 < pace.stepsPerTimerTick)
    (loop : Loop limit pace machine steps result left) (ended : EndsReported result) :
    (periods pace.stepsPerTimerTick machine steps : Int) =
      left.tick / pace.stepsPerTimerTick - machine.tick / pace.stepsPerTimerTick := by
  have passed := Machine.periods_eq positive fun turn less => loop.step_ok less
  rcases loop.left_cases with ⟨_, _, rfl⟩ | ⟨fault, answer, failed, rfl⟩
  · exact passed
  · rw [tick_step_of_machineFault failed (ended fault answer)]
    exact passed

end Machine

/-! ## Counting down -/

/-- One of the two timers. -/
inductive Timer where
  | delay
  | sound

namespace Timer

/-- What a timer stands at. -/
def value : Timer → Machine → Byte
  | delay, machine => machine.delay
  | sound, machine => machine.sound

/-- The part of the machine that a timer is. -/
def part : Timer → Part
  | delay => .delay
  | sound => .sound

/-- The operation that sets a timer. -/
def setter : Timer → Operation
  | delay => .setDelay
  | sound => .setSound

open Machine

variable (timer : Timer) {machine left : Machine} {ratio limit : Int} {pace : Pace}
  {turns steps : Nat} {result : Except Fault RunEnd}

theorem part_ne_counter : timer.part ≠ .counter := by
  cases timer with
  | _ => decide

/-- Nothing but its setter writes a timer. -/
theorem eq_setter_of_mem_writes {operation : Operation} (written : timer.part ∈ operation.writes) :
    operation = timer.setter := by
  cases timer with
  | _ =>
    cases operation with
    | _ => first | rfl | exact absurd written (by decide)

theorem value_eq_of_same (same : machine.Same left timer.part) :
    timer.value left = timer.value machine := by
  cases timer with
  | _ => exact same

theorem value_step (unset : ¬ machine.Next timer.setter) :
    timer.value machine.step.machine = timer.value machine := by
  apply timer.value_eq_of_same
  apply same_step machine timer.part_ne_counter
  intro operation next written
  cases timer.eq_setter_of_mem_writes written
  exact unset next

theorem value_step_of_machineFault {fault : Fault} (failed : machine.step.result = .error fault)
    (machineFault : fault.isMachineFault = true) :
    timer.value machine.step.machine = timer.value machine :=
  timer.value_eq_of_same
    (same_step_of_machineFault machine timer.part_ne_counter failed machineFault)

theorem toNat_value_tickTimers (machine : Machine) :
    (timer.value machine.tickTimers.machine).toNat = (timer.value machine).toNat - 1 := by
  have down : ∀ byte : Byte, (if byte = 0 then 0 else byte - 1 : Byte).toNat = byte.toNat - 1 := by
    intro byte
    have counted := toNat_countDown byte
    by_cases running : (byte.toNat : Int) > 0
    · rw [if_pos running] at counted
      omega
    · rw [if_neg running] at counted
      omega
  cases timer with
  | delay => exact down machine.delay
  | sound => exact down machine.sound

theorem toNat_value_turned (unset : ¬ machine.Next timer.setter) (ratio : Int) :
    (timer.value (machine.turned ratio)).toNat =
      (timer.value machine).toNat - if machine.step.machine.tick % ratio = 0 then 1 else 0 := by
  by_cases due : machine.step.machine.tick % ratio = 0
  · rw [turned_of_due machine due, if_pos due, toNat_value_tickTimers, timer.value_step unset]
  · rw [turned_of_not_due machine due, if_neg due, timer.value_step unset]
    rfl

/-- While nothing sets it, a timer goes down with the timer periods as far as it can. -/
theorem toNat_value_course
    (unset : ∀ turn < turns, ¬ (course ratio machine turn).Next timer.setter) :
    (timer.value (course ratio machine turns)).toNat =
      (timer.value machine).toNat - periods ratio machine turns := by
  induction turns generalizing machine with
  | zero => rfl
  | succ turns ih =>
    have unset_first : ¬ machine.Next timer.setter := unset 0 (Nat.zero_lt_succ turns)
    have first := timer.toNat_value_turned unset_first ratio
    have rest := ih fun turn less => unset (turn + 1) (Nat.succ_lt_succ less)
    rw [course, rest, first, periods_succ, Nat.sub_sub]

theorem toNat_value_left (loop : Loop limit pace machine steps result left)
    (ended : EndsReported result)
    (unset : ∀ turn < steps, ¬ (course pace.stepsPerTimerTick machine turn).Next timer.setter) :
    (timer.value left).toNat =
      (timer.value machine).toNat - periods pace.stepsPerTimerTick machine steps := by
  have passed := timer.toNat_value_course unset
  rcases loop.left_cases with ⟨_, _, rfl⟩ | ⟨fault, answer, failed, rfl⟩
  · exact passed
  · rw [timer.value_step_of_machineFault failed (ended fault answer)]
    exact passed

end Timer

end Chip8
