/-
# How a run ends

The answer of a run is settled by the course of the machine: the machines at which the
turns begin, each one turn after the one before. The run stops if all turns up to the limit
go on, pauses if all up to the tick to pause at do, and otherwise ends in the first turn
that does not, with what the step of that turn gave as a reason. `Loop` counts the steps
that go through, so what is said of the last step is said of the turn below that count.

Each answer has its own statement about loops. One direction reads the ending off the
loop; for the other it is enough to name turns that pass and an ending after them, because
a machine has only one loop.
-/

import Chip8.Proofs.Run.Loop
import Mathlib.Control.Monad.Basic

namespace Chip8.Machine

variable {limit : Int} {pace : Pace} {machine left : Machine} {steps turns : Nat}
  {result : Except Fault RunEnd}

/-! ## The number of steps -/

/-- As many turns can pass as there are ticks below the limit. -/
theorem Passes.le (passes : Passes limit pace machine turns) :
    (turns : Int) ≤ max 0 (limit - machine.tick) := by
  cases turns with
  | zero => exact Int.le_max_left 0 _
  | succ turns =>
    have reached := (passes.of_le (Nat.le_succ turns)).tick
    have below := (passes turns (Nat.lt_succ_self turns)).1.below
    omega

namespace Loop

variable (loop : Loop limit pace machine steps result left)

include loop

theorem passes (goesOn : ∀ turn < steps, (course pace.stepsPerTimerTick machine turn).GoesOn) :
    Passes limit pace machine steps :=
  fun turn less => ⟨(loop.begins less).2, goesOn turn less⟩

theorem steps_le : (steps : Int) ≤ max 0 (limit - machine.tick) := by
  cases steps with
  | zero => exact Int.le_max_left 0 _
  | succ last =>
    have below := (loop.begins (Nat.lt_succ_self last)).2.below
    rw [loop.tick_course (Nat.lt_succ_self last)] at below
    omega

theorem tick_le : left.tick ≤ max machine.tick limit := by
  obtain ⟨passed, more, rfl, passes, ending⟩ := loop_iff.mp loop
  have few := passes.le
  have reached := passes.tick
  have last := ending.tick
  cases ending with
  | limitReached | pauses => omega
  | @fails fault begins failed =>
    have below := begins.below
    have one_at_most := unreportedSteps_le (.error fault)
    omega
  | waits begins | halts begins =>
    have below := begins.below
    rw [unreportedSteps_ok] at last
    omega

section Unique

variable (nonzero : pace.stepsPerTimerTick ≠ 0)

include nonzero

theorem unique {other : Machine} {count : Nat} {answer : Except Fault RunEnd}
    (also : Loop limit pace machine count answer other) :
    count = steps ∧ answer = result ∧ other = left := by
  obtain ⟨rfl, rfl⟩ := run_of_loop nonzero loop
  obtain ⟨rfl, rfl⟩ := run_of_loop nonzero also
  have counted := loop.tick
  have recounted := also.tick
  exact ⟨by omega, rfl, rfl⟩

/-- Turns that pass and an ending after them are the whole loop. -/
theorem eq_of_ends {other : Machine} {more : Nat} {answer : Except Fault RunEnd}
    (passes : Passes limit pace machine turns)
    (ending : Ends limit pace (course pace.stepsPerTimerTick machine turns) more answer other) :
    turns + more = steps ∧ answer = result ∧ other = left :=
  loop.unique nonzero (loop_iff.mpr ⟨turns, more, rfl, passes, ending⟩)

/-! ## One statement for each answer -/

theorem stopped_iff : result = .ok .stopped ↔
    machine.tick + steps = max machine.tick limit ∧
      ∀ turn < steps, (course pace.stepsPerTimerTick machine turn).GoesOn ∧
        pace.pauseTick ≠ some (course pace.stepsPerTimerTick machine turn).tick := by
  constructor
  · rintro rfl
    obtain ⟨passed, more, rfl, passes, ending⟩ := loop_iff.mp loop
    cases ending with
    | limitReached reached =>
      have few := passes.le
      have counted := passes.tick
      refine ⟨by omega, fun turn less => ?_⟩
      exact ⟨(passes turn less).2, (passes turn less).1.unpaused⟩
  · rintro ⟨far, onward⟩
    have passes := loop.passes fun turn less => (onward turn less).1
    have reached : limit ≤ (course pace.stepsPerTimerTick machine steps).tick := by
      rw [passes.tick]
      omega
    exact (loop.eq_of_ends nonzero passes (.limitReached reached)).2.1.symm

theorem paused_iff : result = .ok .paused ↔
    ∃ tick, pace.pauseTick = some tick ∧ machine.tick ≤ tick ∧ tick < limit ∧
      ∀ turn : Nat, machine.tick + turn < tick →
        (course pace.stepsPerTimerTick machine turn).GoesOn := by
  constructor
  · rintro rfl
    obtain ⟨passed, more, rfl, passes, ending⟩ := loop_iff.mp loop
    have counted := passes.tick
    cases ending with
    | pauses below here =>
      refine ⟨_, here, by omega, below, fun turn earlier => (passes turn ?_).2⟩
      omega
  · rintro ⟨tick, here, least, below, onward⟩
    have there : machine.tick + (tick - machine.tick).toNat = tick := by omega
    have passes : ∀ turns : Nat, machine.tick + turns ≤ tick → Passes limit pace machine turns := by
      intro turns
      induction turns with
      | zero => exact fun _ => passes_zero
      | succ turns ih =>
        intro near turn less
        have earlier := ih (by omega)
        rcases Nat.lt_or_eq_of_le (Nat.le_of_lt_succ less) with before | rfl
        · exact earlier turn before
        · refine ⟨⟨?_, ?_⟩, onward turn (by omega)⟩
          · rw [earlier.tick]
            omega
          · rw [earlier.tick, here]
            intro same
            cases same
            omega
    have passed := passes _ (Int.le_of_eq there)
    have arrived := passed.tick
    rw [there] at arrived
    rw [← arrived] at below here
    exact (loop.eq_of_ends nonzero passed (.pauses below here)).2.1.symm

theorem waiting_iff : result = .ok .waiting ↔
    ∃ last, steps = last + 1 ∧
      (course pace.stepsPerTimerTick machine last).step.result = .ok .waiting := by
  constructor
  · rintro rfl
    obtain ⟨passed, more, rfl, passes, ending⟩ := loop_iff.mp loop
    cases ending with
    | waits begins waits => exact ⟨passed, rfl, waits⟩
  · rintro ⟨last, rfl, waits⟩
    obtain ⟨passes, begins⟩ := loop.begins (Nat.lt_succ_self last)
    exact (loop.eq_of_ends nonzero passes (.waits begins waits)).2.1.symm

theorem halted_iff : result = .ok .halted ↔
    ∃ last, steps = last + 1 ∧
      (course pace.stepsPerTimerTick machine last).JumpsToItself := by
  constructor
  · rintro rfl
    obtain ⟨passed, more, rfl, passes, ending⟩ := loop_iff.mp loop
    cases ending with
    | halts begins runs jumps => exact ⟨passed, rfl, jumps⟩
  · rintro ⟨last, rfl, jumps⟩
    obtain ⟨passes, begins⟩ := loop.begins (Nat.lt_succ_self last)
    obtain ⟨_, went⟩ := loop.step_ok (Nat.lt_succ_self last)
    have runs := jumps.runs (reportable_of_ok went)
    exact (loop.eq_of_ends nonzero passes (.halts begins runs jumps)).2.1.symm

theorem error_iff {fault : Fault} : result = .error fault ↔
    (∀ turn < steps, (course pace.stepsPerTimerTick machine turn).GoesOn) ∧
      (course pace.stepsPerTimerTick machine steps).Begins limit pace ∧
      (course pace.stepsPerTimerTick machine steps).step.result = .error fault := by
  constructor
  · rintro rfl
    obtain ⟨passed, more, rfl, passes, ending⟩ := loop_iff.mp loop
    cases ending with
    | fails begins failed => exact ⟨fun turn less => (passes turn less).2, begins, failed⟩
  · rintro ⟨goesOn, begins, failed⟩
    exact (loop.eq_of_ends nonzero (loop.passes goesOn) (.fails begins failed)).2.1.symm

end Unique

/-! ## What is left -/

/-- A loop that pauses has not touched the instruction at the tick to pause at. -/
theorem machine_of_paused (paused : result = .ok .paused) :
    pace.pauseTick = some left.tick ∧ left = course pace.stepsPerTimerTick machine steps := by
  subst paused
  obtain ⟨passed, more, rfl, passes, ending⟩ := loop_iff.mp loop
  cases ending with
  | pauses below here => exact ⟨here, rfl⟩

section Error

variable {fault : Fault} (failed : result = .error fault)

include failed

/-- A loop that fails leaves what the step that failed left. -/
theorem machine_of_error :
    left = (course pace.stepsPerTimerTick machine steps).step.machine := by
  subst failed
  obtain ⟨passed, more, rfl, passes, ending⟩ := loop_iff.mp loop
  cases ending with
  | fails begins failed => rfl

/-- A fault of the machine ends a loop below the limit. -/
theorem tick_of_machineFault (machineFault : fault.isMachineFault = true) :
    left.tick = machine.tick + steps ∧ left.tick < limit := by
  have counted := loop.tick
  subst failed
  obtain ⟨passed, more, rfl, passes, ending⟩ := loop_iff.mp loop
  rw [unreportedSteps_of_machineFault machineFault] at counted
  cases ending with
  | fails begins failed =>
    have below := begins.below
    rw [passes.tick] at below
    omega

/-- Any other fault is that of a step that cannot be reported, in a machine that reports. -/
theorem unreported_of_error (other : fault.isMachineFault = false) :
    (course pace.stepsPerTimerTick machine steps).Unreported ∧
      fault = .unwritable left.tick ∧ left.tick = machine.tick + steps + 1 ∧
      machine.settings.quiet = false ∧ ¬ IsWritable left.tick := by
  have counted := loop.tick
  subst failed
  obtain ⟨passed, more, rfl, passes, ending⟩ := loop_iff.mp loop
  cases ending with
  | fails begins failed =>
    obtain ⟨unreported, rfl⟩ := Machine.unreported_of_error failed other
    have silent := unreported.silent
    rw [Reportable, settings_course, not_or] at silent
    rw [unreported.tick_step]
    rw [unreported.tick_step, unreportedSteps_unwritable] at counted
    exact ⟨unreported, rfl, counted, Bool.eq_false_iff.mpr silent.1, silent.2⟩

end Error

end Loop

/-! ## The run -/

/-- A tick to pause at that lies before the start or not below the limit has no effect. -/
theorem run_of_pause_outside {ratio tick : Int} {machine : Machine}
    (outside : tick < machine.tick ∨ limit ≤ tick) :
    machine.run limit ⟨ratio, some tick⟩ = machine.run limit ⟨ratio, none⟩ := by
  generalize distance : (limit - machine.tick).toNat = most
  induction most generalizing machine with
  | zero =>
    have reached : limit ≤ machine.tick := by omega
    rw [run_of_limit_le reached, run_of_limit_le reached]
  | succ most ih =>
    have below : machine.tick < limit := by omega
    have elsewhere : some tick ≠ some machine.tick := by
      intro same
      cases same
      omega
    have begins : machine.Begins limit ⟨ratio, some tick⟩ := ⟨below, elsewhere⟩
    have also_begins : machine.Begins limit ⟨ratio, none⟩ := ⟨below, nofun⟩
    rw [run_of_begins begins, run_of_begins also_begins]
    rcases turned : machine.turn ratio with ⟨fault | ⟨⟩ | ending, left, events⟩
    · rfl
    · have later := tick_turn (congrArg Outcome.result turned)
      rw [turned] at later
      simp only at later
      have rest : left.run limit ⟨ratio, some tick⟩ = left.run limit ⟨ratio, none⟩ :=
        ih (by omega) (by omega)
      simp only [rest]
    · rfl

/-- A run that can write all its ticks can report its steps. -/
theorem Loop.isMachineFault (loop : Loop limit pace machine steps result left)
    (told : machine.TellsTicks limit) {fault : Fault} (failed : result = .error fault) :
    fault.isMachineFault = true := by
  cases other : fault.isMachineFault with
  | true => rfl
  | false =>
    obtain ⟨_, _, counted, loud, silent⟩ := loop.unreported_of_error failed other
    rcases told with quiet | ticks
    · rw [quiet] at loud
      cases loud
    · have bounded := loop.tick_le
      exact absurd (ticks left.tick (by omega) (by omega)) silent

/-- From every machine the loop of a run comes to one end, after no more steps than there
are ticks below the limit, each of which raises the tick by one. It stops, pauses, waits,
halts or fails for just the reasons that the course gives for it, and a tick to pause at
that is not among the ticks of the run has no effect. A fault that is not one of the
machine means that the last step raised the tick too, to one that cannot be written; a run
that writes nothing, or no tick but such as can be written, does not end so. -/
theorem run_outcome (limit : Int) (pace : Pace) (positive : 1 ≤ pace.stepsPerTimerTick)
    (machine : Machine) :
    let before := course pace.stepsPerTimerTick machine
    let outcome := machine.run limit pace
    ∃ steps : Nat,
      (∀ count result left, Loop limit pace machine count result left ↔
        count = steps ∧ result = outcome.result ∧ left = outcome.machine) ∧
      (steps : Int) ≤ max 0 (limit - machine.tick) ∧
      (∀ turn < steps, (∃ status, (before turn).step.result = .ok status) ∧
        (before turn).step.machine.tick = (before turn).tick + 1) ∧
      (machine.tick ≤ outcome.machine.tick ∧ outcome.machine.tick ≤ max machine.tick limit) ∧
      (∀ ending, outcome.result = .ok ending → outcome.machine.tick = machine.tick + steps) ∧
      (outcome.result = .ok .stopped ↔
        machine.tick + steps = max machine.tick limit ∧
          ∀ turn < steps, (before turn).GoesOn ∧ pace.pauseTick ≠ some (before turn).tick) ∧
      (outcome.result = .ok .paused ↔
        ∃ tick, pace.pauseTick = some tick ∧ machine.tick ≤ tick ∧ tick < limit ∧
          ∀ turn : Nat, machine.tick + turn < tick → (before turn).GoesOn) ∧
      (outcome.result = .ok .paused →
        pace.pauseTick = some outcome.machine.tick ∧ outcome.machine = before steps) ∧
      (outcome.result = .ok .waiting ↔
        ∃ last, steps = last + 1 ∧ (before last).step.result = .ok .waiting) ∧
      (outcome.result = .ok .halted ↔
        ∃ last, steps = last + 1 ∧ (before last).JumpsToItself) ∧
      (∀ fault, outcome.result = .error fault ↔
        (∀ turn < steps, (before turn).GoesOn) ∧ (before steps).Begins limit pace ∧
          (before steps).step.result = .error fault) ∧
      (∀ fault, outcome.result = .error fault →
        outcome.machine = (before steps).step.machine ∧
        (fault.isMachineFault = true →
          outcome.machine.tick = machine.tick + steps ∧ outcome.machine.tick < limit) ∧
        (fault.isMachineFault = false →
          (before steps).Unreported ∧ fault = .unwritable outcome.machine.tick ∧
            outcome.machine.tick = machine.tick + steps + 1 ∧
            machine.settings.quiet = false ∧ ¬ IsWritable outcome.machine.tick) ∧
        (machine.TellsTicks limit → fault.isMachineFault = true)) ∧
      ∀ tick, tick < machine.tick ∨ limit ≤ tick →
        machine.run limit { pace with pauseTick := some tick } =
          machine.run limit { pace with pauseTick := none } := by
  intro before outcome
  have nonzero : pace.stepsPerTimerTick ≠ 0 := by omega
  obtain ⟨steps, loop⟩ := loop_run limit pace nonzero machine
  have only : ∀ count result left, Loop limit pace machine count result left ↔
      count = steps ∧ result = outcome.result ∧ left = outcome.machine := by
    intro count result left
    constructor
    · exact loop.unique nonzero
    · rintro ⟨rfl, rfl, rfl⟩
      exact loop
  refine ⟨steps, only, loop.steps_le, ?_, ⟨?_, loop.tick_le⟩, fun ending => loop.tick_of_ok,
    loop.stopped_iff nonzero, loop.paused_iff nonzero, loop.machine_of_paused,
    loop.waiting_iff nonzero, loop.halted_iff nonzero, fun fault => loop.error_iff nonzero, ?_,
    fun tick outside => run_of_pause_outside outside⟩
  · intro turn less
    obtain ⟨status, went⟩ := loop.step_ok less
    exact ⟨⟨status, went⟩, tick_step_of_ok went⟩
  · have counted : outcome.machine.tick = _ := loop.tick
    omega
  · intro fault failed
    exact ⟨loop.machine_of_error failed, loop.tick_of_machineFault failed,
      loop.unreported_of_error failed, fun told => loop.isMachineFault told failed⟩

/-- A jump to itself at the last tick below the limit, from a tick below zero. -/
theorem run_outcome_halted_at_limit :
    let machine : Machine := { bare [0x60, 0x01, 0x12, 0x02] with tick := -3 }
    let left := (machine.run (-1) {}).machine
    left.tick = -1 ∧ ∃ last : Nat, left.tick = -3 + (last + 1 : Nat) ∧
      (course 10 machine last).JumpsToItself := by
  intro machine left
  have halted : (machine.run (-1) {}).result = .ok .halted := by decide +kernel
  obtain ⟨steps, _, _, _, _, counted, _, _, _, _, halted_iff, _⟩ :=
    run_outcome (-1) {} (by decide) machine
  obtain ⟨last, rfl, jumps⟩ := halted_iff.mp halted
  exact ⟨by decide +kernel, last, counted _ halted, jumps⟩

/-- At the widest tick a jump to itself does not halt its run, although the tick that it
raises reaches the limit: the run ends in a fault that is not one of the machine. -/
theorem run_ends_unreported_at_widest_tick :
    let machine : Machine := { bare [0x12, 0x00] with tick := widest }
    let outcome := machine.run (widest + 1) {}
    machine.WellFormed ∧ (∀ ending, outcome.result ≠ .ok ending) ∧
      ∀ fault, outcome.result = .error fault → fault.isMachineFault = false := by
  intro machine outcome
  have unreported : machine.Unreported := by
    have silent := not_reportable_of_widest machine rfl rfl
    exact ⟨silent, .jump, .running, ⟨by decide +kernel, by decide +kernel⟩, rfl⟩
  have begins : machine.Begins (widest + 1) {} := ⟨Int.lt_succ widest, nofun⟩
  have ended : outcome.result = .error (.unwritable (widest + 1)) :=
    congrArg Outcome.result (run_of_error begins unreported.result_step)
  refine ⟨⟨Nat.zero_le 16, by decide⟩, ?_, ?_⟩
  · intro ending went
    rw [ended] at went
    cases went
  · intro fault failed
    rw [ended] at failed
    cases failed
    rfl

end Chip8.Machine
