/-
# The loop of a run

`run` sets out with a number of turns that is sure to be enough. The loop that it
stands for knows no such number: it takes turns while the limit is not reached, the tick
is not the one to pause at, and no step gives a reason to end. `Loop` says this by rules.
`Ends` has one for each way to end, after no further step that goes through or after one,
and `Loop` adds turns that go on. Derivations are finite, so that every machine has one
is a theorem of its own: the loop comes to an end from everywhere.

The main statements are that the run gives just the answer and the machine of its loop,
and that a loop is a number of turns that pass and then an ending, where `Passes` speaks
of the course of the machine alone.
-/

import Chip8.Proofs.Run.Turn

namespace Chip8.Machine

section Rules

variable (limit : Int) (pace : Pace)

/-- How a loop ends at a machine: after so many more steps that go through, with an
answer, leaving a machine. -/
inductive Ends : Machine → Nat → Except Fault RunEnd → Machine → Prop
  | limitReached {machine : Machine} (reached : limit ≤ machine.tick) :
    Ends machine 0 (.ok .stopped) machine
  | pauses {machine : Machine} (below : machine.tick < limit)
    (here : pace.pauseTick = some machine.tick) : Ends machine 0 (.ok .paused) machine
  | fails {machine : Machine} {fault : Fault} (begins : machine.Begins limit pace)
    (failed : machine.step.result = .error fault) :
    Ends machine 0 (.error fault) machine.step.machine
  | waits {machine : Machine} (begins : machine.Begins limit pace)
    (waits : machine.step.result = .ok .waiting) :
    Ends machine 1 (.ok .waiting) (machine.turned pace.stepsPerTimerTick)
  | halts {machine : Machine} (begins : machine.Begins limit pace)
    (runs : machine.step.result = .ok .running) (jumps : machine.JumpsToItself) :
    Ends machine 1 (.ok .halted) (machine.turned pace.stepsPerTimerTick)

/-- The loop of a run: turns that go on, and then an ending. The number counts the steps
that go through. -/
inductive Loop : Machine → Nat → Except Fault RunEnd → Machine → Prop
  | ends {machine left : Machine} {steps : Nat} {result : Except Fault RunEnd}
    (ending : Ends limit pace machine steps result left) : Loop machine steps result left
  | goesOn {machine left : Machine} {steps : Nat} {result : Except Fault RunEnd}
    (begins : machine.Begins limit pace) (on : machine.GoesOn)
    (rest : Loop (machine.turned pace.stepsPerTimerTick) steps result left) :
    Loop machine (steps + 1) result left

/-- So many turns begin and go on. -/
def Passes (machine : Machine) (turns : Nat) : Prop :=
  ∀ turn < turns, (course pace.stepsPerTimerTick machine turn).Begins limit pace ∧
    (course pace.stepsPerTimerTick machine turn).GoesOn

end Rules

variable {limit : Int} {pace : Pace} {machine left : Machine} {steps turns : Nat}
  {result : Except Fault RunEnd}

/-! ## The loop and the run -/

theorem Begins.ends_or_goesOn (begins : machine.Begins limit pace) :
    (∃ steps result left, Ends limit pace machine steps result left) ∨ machine.GoesOn := by
  cases stepped : machine.step.result with
  | error fault => exact .inl ⟨_, _, _, .fails begins stepped⟩
  | ok status =>
    cases status with
    | waiting => exact .inl ⟨_, _, _, .waits begins stepped⟩
    | running =>
      by_cases jumps : machine.JumpsToItself
      · exact .inl ⟨_, _, _, .halts begins stepped jumps⟩
      · exact .inr ⟨stepped, jumps⟩

theorem ends_or_goesOn (limit : Int) (pace : Pace) (machine : Machine) :
    (∃ steps result left, Ends limit pace machine steps result left) ∨
      (machine.Begins limit pace ∧ machine.GoesOn) := by
  rcases Int.lt_or_le machine.tick limit with below | reached
  · by_cases here : pace.pauseTick = some machine.tick
    · exact .inl ⟨_, _, _, .pauses below here⟩
    · have begins : machine.Begins limit pace := ⟨below, here⟩
      exact begins.ends_or_goesOn.imp_right fun on => ⟨begins, on⟩
  · exact .inl ⟨_, _, _, .limitReached reached⟩

theorem GoesOn.tick_turned (on : machine.GoesOn) (ratio : Int) :
    (machine.turned ratio).tick = machine.tick + 1 := by
  rw [Machine.tick_turned, tick_step_of_ok on.runs]

/-! ## Ticks that can be written -/

/-- The machine writes no ticks, or can write all behind its own up to the last. -/
def TellsTicks (machine : Machine) (last : Int) : Prop :=
  machine.settings.quiet = true ∨ ∀ tick, machine.tick < tick → tick ≤ last → IsWritable tick

theorem tellsTicks_of_isWritable {last : Int} (first_told : IsWritable (machine.tick + 1))
    (last_told : IsWritable last) : machine.TellsTicks last :=
  .inr fun _ later least => first_told.between last_told (Int.add_one_le_of_lt later) least

namespace TellsTicks

variable {last : Int} (told : machine.TellsTicks last)

include told

theorem reportable (below : machine.tick < last) : machine.Reportable :=
  told.imp_right fun ticks => ticks (machine.tick + 1) (Int.lt_succ _) below

theorem turned (on : machine.GoesOn) (ratio : Int) : (machine.turned ratio).TellsTicks last := by
  rw [TellsTicks, settings_turned, on.tick_turned]
  exact told.imp_right fun ticks tick later least => ticks tick (by omega) least

end TellsTicks

/-! ## The end of the loop -/

/-- Every turn brings the tick nearer to the limit, so the loop ends. -/
theorem exists_loop (limit : Int) (pace : Pace) (machine : Machine) :
    ∃ steps result left, Loop limit pace machine steps result left := by
  generalize distance : (limit - machine.tick).toNat = most
  induction most generalizing machine with
  | zero =>
    have reached : limit ≤ machine.tick := by omega
    exact ⟨_, _, _, .ends (.limitReached reached)⟩
  | succ most ih =>
    rcases ends_or_goesOn limit pace machine with ⟨_, _, _, ending⟩ | ⟨begins, on⟩
    · exact ⟨_, _, _, .ends ending⟩
    · have nearer := on.tick_turned pace.stepsPerTimerTick
      obtain ⟨_, _, _, rest⟩ := ih (machine.turned pace.stepsPerTimerTick) (by omega)
      exact ⟨_, _, _, .goesOn begins on rest⟩

theorem run_of_ends (nonzero : pace.stepsPerTimerTick ≠ 0)
    (ending : Ends limit pace machine steps result left) :
    (machine.run limit pace).result = result ∧ (machine.run limit pace).machine = left := by
  cases ending with
  | limitReached reached =>
    rw [run_of_limit_le reached]
    exact ⟨rfl, rfl⟩
  | pauses below here =>
    rw [run_of_pause below here]
    exact ⟨rfl, rfl⟩
  | fails begins failed =>
    rw [run_of_error begins failed]
    exact ⟨rfl, rfl⟩
  | waits begins waits =>
    rw [run_of_waiting begins nonzero waits]
    exact ⟨rfl, rfl⟩
  | halts begins runs jumps =>
    rw [run_of_jumpsToItself begins nonzero runs jumps]
    exact ⟨rfl, rfl⟩

/-- The run answers and leaves what its loop does. -/
theorem run_of_loop (nonzero : pace.stepsPerTimerTick ≠ 0)
    (loop : Loop limit pace machine steps result left) :
    (machine.run limit pace).result = result ∧ (machine.run limit pace).machine = left := by
  induction loop with
  | ends ending => exact run_of_ends nonzero ending
  | goesOn begins on _ ih =>
    rw [run_of_goesOn begins nonzero on]
    exact ih

theorem loop_run (limit : Int) (pace : Pace) (nonzero : pace.stepsPerTimerTick ≠ 0)
    (machine : Machine) :
    ∃ steps, Loop limit pace machine steps (machine.run limit pace).result
      (machine.run limit pace).machine := by
  obtain ⟨steps, result, left, loop⟩ := exists_loop limit pace machine
  obtain ⟨rfl, rfl⟩ := run_of_loop nonzero loop
  exact ⟨steps, loop⟩

/-! ## The loop and the course -/

theorem passes_zero : Passes limit pace machine 0 :=
  fun turn less => absurd less (Nat.not_lt_zero turn)

theorem passes_succ : Passes limit pace machine (turns + 1) ↔
    (machine.Begins limit pace ∧ machine.GoesOn) ∧
      Passes limit pace (machine.turned pace.stepsPerTimerTick) turns := by
  constructor
  · intro passes
    exact ⟨passes 0 (Nat.zero_lt_succ turns),
      fun turn less => passes (turn + 1) (Nat.succ_lt_succ less)⟩
  · rintro ⟨first, later⟩ turn less
    cases turn with
    | zero => exact first
    | succ turn => exact later turn (Nat.lt_of_succ_lt_succ less)

theorem Passes.tick (passes : Passes limit pace machine turns) :
    (course pace.stepsPerTimerTick machine turns).tick = machine.tick + turns := by
  induction turns generalizing machine with
  | zero => exact (Int.add_zero machine.tick).symm
  | succ turns ih =>
    obtain ⟨⟨_, on⟩, later⟩ := passes_succ.mp passes
    have counted := on.tick_turned pace.stepsPerTimerTick
    have rest := ih later
    simp only [course]
    omega

theorem Passes.of_le (passes : Passes limit pace machine turns) {fewer : Nat}
    (le : fewer ≤ turns) : Passes limit pace machine fewer :=
  fun turn less => passes turn (Nat.lt_of_lt_of_le less le)

/-- Turns that pass can be put before a loop. -/
theorem Passes.loop (passes : Passes limit pace machine turns)
    (rest : Loop limit pace (course pace.stepsPerTimerTick machine turns) steps result left) :
    Loop limit pace machine (turns + steps) result left := by
  induction turns generalizing machine with
  | zero =>
    rw [Nat.zero_add]
    exact rest
  | succ turns ih =>
    obtain ⟨⟨begins, on⟩, later⟩ := passes_succ.mp passes
    rw [Nat.add_right_comm]
    exact .goesOn begins on (ih later rest)

/-- A loop is a number of turns that pass, and then an ending. -/
theorem loop_iff : Loop limit pace machine steps result left ↔
    ∃ passed more, steps = passed + more ∧ Passes limit pace machine passed ∧
      Ends limit pace (course pace.stepsPerTimerTick machine passed) more result left := by
  constructor
  · intro loop
    induction loop with
    | ends ending => exact ⟨0, _, (Nat.zero_add _).symm, passes_zero, ending⟩
    | goesOn begins on _ ih =>
      obtain ⟨passed, more, rfl, passes, ending⟩ := ih
      exact ⟨passed + 1, more, Nat.add_right_comm passed more 1,
        passes_succ.mpr ⟨⟨begins, on⟩, passes⟩, ending⟩
  · rintro ⟨passed, more, rfl, passes, ending⟩
    exact passes.loop (.ends ending)

/-! ## What a loop does and leaves -/

/-- The steps that a run has counted although they failed: one, if it ended for want of a
report. -/
def unreportedSteps : Except Fault RunEnd → Nat
  | .error (.unwritable _) => 1
  | _ => 0

@[simp]
theorem unreportedSteps_ok (ending : RunEnd) : unreportedSteps (.ok ending) = 0 := rfl

@[simp]
theorem unreportedSteps_unwritable (value : Int) :
    unreportedSteps (.error (.unwritable value)) = 1 := rfl

theorem unreportedSteps_of_machineFault {fault : Fault}
    (machineFault : fault.isMachineFault = true) :
    unreportedSteps (.error fault) = 0 := by
  cases fault with
  | unwritable => cases machineFault
  | _ => rfl

theorem unreportedSteps_of_told (told : ∀ value, result ≠ .error (.unwritable value)) :
    unreportedSteps result = 0 := by
  unfold unreportedSteps
  split
  · exact absurd rfl (told _)
  · rfl

theorem unreportedSteps_le (result : Except Fault RunEnd) : unreportedSteps result ≤ 1 := by
  unfold unreportedSteps
  split
  · exact Nat.le_refl 1
  · exact Nat.zero_le 1

/-- A step that fails is counted exactly if it fails for want of a report. -/
theorem tick_step_of_error {fault : Fault} (failed : machine.step.result = .error fault) :
    machine.step.machine.tick = machine.tick + unreportedSteps (.error fault) := by
  cases machineFault : fault.isMachineFault with
  | true =>
    rw [tick_step_of_machineFault failed machineFault,
      unreportedSteps_of_machineFault machineFault]
    exact (Int.add_zero machine.tick).symm
  | false =>
    obtain ⟨unreported, rfl⟩ := unreported_of_error failed machineFault
    exact unreported.tick_step

theorem Ends.tick (ending : Ends limit pace machine steps result left) :
    left.tick = machine.tick + steps + unreportedSteps result := by
  cases ending with
  | limitReached | pauses => simp
  | fails begins failed =>
    rw [tick_step_of_error failed, Int.natCast_zero, Int.add_zero]
  | waits begins runs | halts begins runs =>
    simp [tick_turned, tick_step_of_ok runs]

namespace Loop

variable (loop : Loop limit pace machine steps result left)

include loop

theorem tick : left.tick = machine.tick + steps + unreportedSteps result := by
  obtain ⟨passed, more, rfl, passes, ending⟩ := loop_iff.mp loop
  have counted := passes.tick
  have last := ending.tick
  omega

theorem tick_of_ok {ending : RunEnd} (ended : result = .ok ending) :
    left.tick = machine.tick + steps := by
  have counted := loop.tick
  rw [ended, unreportedSteps_ok] at counted
  omega

/-- A loop makes its steps in turns that begin, each after turns that pass. -/
theorem begins {turn : Nat} (less : turn < steps) :
    Passes limit pace machine turn ∧
      (course pace.stepsPerTimerTick machine turn).Begins limit pace := by
  obtain ⟨passed, more, rfl, passes, ending⟩ := loop_iff.mp loop
  rcases Nat.lt_or_ge turn passed with before | last
  · exact ⟨passes.of_le (Nat.le_of_lt before), (passes turn before).1⟩
  · -- only an ending with one more step leaves room for this turn
    cases ending with
    | limitReached | pauses | fails => exact absurd less (Nat.not_lt.mpr last)
    | waits begins | halts begins =>
      cases Nat.le_antisymm (Nat.le_of_lt_succ less) last
      exact ⟨passes, begins⟩

theorem tick_course {turn : Nat} (less : turn < steps) :
    (course pace.stepsPerTimerTick machine turn).tick = machine.tick + turn :=
  (loop.begins less).1.tick

theorem step_ok {turn : Nat} (less : turn < steps) :
    ∃ status, (course pace.stepsPerTimerTick machine turn).step.result = .ok status := by
  obtain ⟨passed, more, rfl, passes, ending⟩ := loop_iff.mp loop
  rcases Nat.lt_or_ge turn passed with before | last
  · exact ⟨_, (passes turn before).2.runs⟩
  · cases ending with
    | limitReached | pauses | fails => exact absurd less (Nat.not_lt.mpr last)
    | waits begins waits =>
      cases Nat.le_antisymm (Nat.le_of_lt_succ less) last
      exact ⟨_, waits⟩
    | halts begins runs =>
      cases Nat.le_antisymm (Nat.le_of_lt_succ less) last
      exact ⟨_, runs⟩

/-- A loop leaves the machine that its steps lead to, or what one more step leaves there
that fails. -/
theorem left_cases :
    (∃ ending, result = .ok ending ∧ left = course pace.stepsPerTimerTick machine steps) ∨
      ∃ fault, result = .error fault ∧
        (course pace.stepsPerTimerTick machine steps).step.result = .error fault ∧
        left = (course pace.stepsPerTimerTick machine steps).step.machine := by
  obtain ⟨passed, more, rfl, passes, ending⟩ := loop_iff.mp loop
  cases ending with
  | limitReached | pauses => exact .inl ⟨_, rfl, rfl⟩
  | fails begins failed => exact .inr ⟨_, rfl, failed, rfl⟩
  | waits | halts => exact .inl ⟨_, rfl, (course_succ machine _ passed).symm⟩

end Loop

end Chip8.Machine
