/-
# A run turn by turn

A turn is a step and, where the step has brought the tick to a multiple of the ratio,
a timer period. `turnCalls` lists these calls, `turned` is the machine they lead to, and
`course` the machine at which the turn of a given number begins, as long as no turn
before it has ended the run.

The main statements are equations. One says what a run answers, leaves and reports by
what its first step does: it fails, it waits, it jumps to itself, or it goes on, and then
the rest is the run from the machine after the turn. No later statement about runs looks
into a turn again, or into the number of turns that a run sets out with.
-/

import Chip8.Proofs.Machine.WellFormed

namespace Chip8.Machine

variable (machine : Machine)

/-! ## The calls of a turn -/

/-- The events of commands, each obeyed as far as it goes. -/
def reports (machine : Machine) : List Command → List Event
  | [] => []
  | command :: rest =>
    (perform command machine).events ++ reports (perform command machine).machine rest

/-- The calls of a turn whose step goes through. -/
def turnCalls (ratio : Int) : List Command :=
  if machine.step.machine.tick % ratio = 0 then [.step, .tickTimers] else [.step]

/-- The machine after a turn whose step goes through. -/
def turned (ratio : Int) : Machine :=
  machine.after (machine.turnCalls ratio)

/-- The machine at which the turn number `turns` begins, if the turns before it go on. -/
def course (ratio : Int) (machine : Machine) : Nat → Machine
  | 0 => machine
  | turns + 1 => course ratio (machine.turned ratio) turns

/-- The next step jumps to the address it is read from. -/
structure JumpsToItself : Prop where
  jumps : machine.Next .jump
  toOrigin : machine.nextWord.address = machine.counter

/-- The next step goes through and is no reason to end a run. -/
structure GoesOn : Prop where
  runs : machine.step.result = .ok .running
  leaves : ¬ machine.JumpsToItself

/-- A run takes one more step: the limit is not reached and the tick is not the one to
pause at. -/
structure Begins (limit : Int) (pace : Pace) : Prop where
  below : machine.tick < limit
  unpaused : pace.pauseTick ≠ some machine.tick

theorem course_succ (ratio : Int) (turns : Nat) :
    course ratio machine (turns + 1) = (course ratio machine turns).turned ratio := by
  induction turns generalizing machine with
  | zero => rfl
  | succ turns ih => exact ih (machine.turned ratio)

theorem turned_of_due {ratio : Int} (due : machine.step.machine.tick % ratio = 0) :
    machine.turned ratio = machine.step.machine.tickTimers.machine := by
  rw [turned, turnCalls, if_pos due]
  rfl

theorem turned_of_not_due {ratio : Int} (early : machine.step.machine.tick % ratio ≠ 0) :
    machine.turned ratio = machine.step.machine := by
  rw [turned, turnCalls, if_neg early]
  rfl

theorem reports_turnCalls_of_due {ratio : Int} (due : machine.step.machine.tick % ratio = 0) :
    machine.reports (machine.turnCalls ratio) =
      machine.step.events ++ machine.step.machine.tickTimers.events := by
  rw [turnCalls, if_pos due]
  show machine.step.events ++ (machine.step.machine.tickTimers.events ++ []) = _
  rw [List.append_nil]

theorem reports_turnCalls_of_not_due {ratio : Int}
    (early : machine.step.machine.tick % ratio ≠ 0) :
    machine.reports (machine.turnCalls ratio) = machine.step.events := by
  rw [turnCalls, if_neg early]
  exact List.append_nil machine.step.events

/-- A timer period changes timers and nothing else. -/
theorem turned_cases (ratio : Int) :
    machine.turned ratio = machine.step.machine ∨
      machine.turned ratio = machine.step.machine.tickTimers.machine := by
  by_cases due : machine.step.machine.tick % ratio = 0
  · exact .inr (turned_of_due machine due)
  · exact .inl (turned_of_not_due machine due)

theorem tick_turned (ratio : Int) : (machine.turned ratio).tick = machine.step.machine.tick := by
  rcases turned_cases machine ratio with same | ticked
  · rw [same]
  · rw [ticked]
    rfl

theorem last_turned (ratio : Int) : (machine.turned ratio).last = machine.step.machine.last := by
  rcases turned_cases machine ratio with same | ticked
  · rw [same]
  · rw [ticked]
    rfl

theorem counter_turned (ratio : Int) :
    (machine.turned ratio).counter = machine.step.machine.counter := by
  rcases turned_cases machine ratio with same | ticked
  · rw [same]
  · rw [ticked]
    rfl

theorem settings_turned (ratio : Int) : (machine.turned ratio).settings = machine.settings := by
  rcases turned_cases machine ratio with same | ticked
  · rw [same, settings_step]
  · rw [ticked]
    exact settings_step machine

theorem settings_course (ratio : Int) (turns : Nat) :
    (course ratio machine turns).settings = machine.settings := by
  induction turns with
  | zero => rfl
  | succ turns ih => rw [course_succ, settings_turned, ih]

/-! ## What the step of a turn does -/

variable {machine}

theorem Next.unique {operation other : Operation} (next : machine.Next operation)
    (also : machine.Next other) : operation = other :=
  Option.some.inj (next.decoded.symm.trans also.decoded)

/-- A jump never fails, so one to itself stops only for want of a report. -/
theorem JumpsToItself.runs (jumps : machine.JumpsToItself) (reportable : machine.Reportable) :
    machine.step.result = .ok .running := by
  rw [result_step jumps.jumps reportable]
  rfl

/-- A step that went through has jumped to itself exactly if the operation noted is a jump
and the counter stands where it stood. -/
theorem jumpsToItself_iff {status : Status} (went : machine.step.result = .ok status) :
    machine.JumpsToItself ↔
      machine.step.machine.last = some .jump ∧
        machine.step.machine.counter = machine.counter := by
  obtain ⟨operation, next⟩ := exists_next went
  have left := machine_step_of_ok next went
  constructor
  · intro itself
    cases next.unique itself.jumps
    rw [left]
    exact ⟨rfl, itself.toOrigin⟩
  · rintro ⟨noted, stands⟩
    rw [left] at noted stands
    cases noted
    exact ⟨next, stands⟩

/-! ## What a turn answers -/

section Turn

variable {ratio : Int}

theorem turn_of_error {fault : Fault} (failed : machine.step.result = .error fault) :
    machine.turn ratio = ⟨.error fault, machine.step.machine, machine.step.events⟩ := by
  rcases stepped : machine.step with ⟨result, left, events⟩
  rw [stepped] at failed
  cases failed
  rw [turn, stepped]

/-- A turn whose step goes through makes its calls and then asks whether the run ends. -/
theorem turn_of_ok (nonzero : ratio ≠ 0) {status : Status}
    (went : machine.step.result = .ok status) :
    machine.turn ratio =
      match (machine.turned ratio).ending? machine.counter status with
      | some (ending, event) =>
        ⟨.ok (some ending), machine.turned ratio,
          machine.reports (machine.turnCalls ratio) ++ [event]⟩
      | none => ⟨.ok none, machine.turned ratio, machine.reports (machine.turnCalls ratio)⟩ := by
  by_cases due : machine.step.machine.tick % ratio = 0
  · rw [turned_of_due machine due, reports_turnCalls_of_due machine due, turn]
    generalize machine.step = outcome at went due ⊢
    rcases outcome with ⟨result, left, events⟩
    cases went
    have every : left.tickTimersEvery ratio =
        ⟨.ok (), left.tickTimers.machine, left.tickTimers.events⟩ := by
      rw [tickTimersEvery, if_neg nonzero, if_pos due]
      rfl
    generalize ended : left.tickTimers.machine.ending? machine.counter status = answer
    cases answer with
    | none => simp only [every, ended]
    | some answer => simp only [every, ended]
  · rw [turned_of_not_due machine due, reports_turnCalls_of_not_due machine due, turn]
    generalize machine.step = outcome at went due ⊢
    rcases outcome with ⟨result, left, events⟩
    cases went
    have every : left.tickTimersEvery ratio = ⟨.ok (), left, []⟩ := by
      rw [tickTimersEvery, if_neg nonzero, if_neg due]
    generalize ended : left.ending? machine.counter status = answer
    cases answer with
    | none => simp only [every, ended, List.append_nil]
    | some answer => simp only [every, ended, List.append_nil]

theorem turn_of_waiting (nonzero : ratio ≠ 0) (waits : machine.step.result = .ok .waiting) :
    machine.turn ratio =
      ⟨.ok (some .waiting), machine.turned ratio,
        machine.reports (machine.turnCalls ratio) ++
          [.keyWaitEnded (machine.turned ratio).tick]⟩ := by
  rw [turn_of_ok nonzero waits]
  rfl

theorem turn_of_jumpsToItself (nonzero : ratio ≠ 0) (went : machine.step.result = .ok .running)
    (jumps : machine.JumpsToItself) :
    machine.turn ratio =
      ⟨.ok (some .halted), machine.turned ratio,
        machine.reports (machine.turnCalls ratio) ++
          [.selfJump (machine.turned ratio).tick machine.counter]⟩ := by
  have ended : (machine.turned ratio).ending? machine.counter .running =
      some (.halted, .selfJump (machine.turned ratio).tick machine.counter) := by
    rw [ending?, last_turned, counter_turned, if_neg (by decide),
      if_pos ((jumpsToItself_iff went).mp jumps)]
  rw [turn_of_ok nonzero went, ended]

theorem turn_of_goesOn (nonzero : ratio ≠ 0) (on : machine.GoesOn) :
    machine.turn ratio =
      ⟨.ok none, machine.turned ratio, machine.reports (machine.turnCalls ratio)⟩ := by
  have open_ended : (machine.turned ratio).ending? machine.counter .running = none := by
    rw [ending?, last_turned, counter_turned, if_neg (by decide),
      if_neg (mt (jumpsToItself_iff on.runs).mpr on.leaves)]
  rw [turn_of_ok nonzero on.runs, open_ended]

end Turn

/-! ## What a run does first -/

section Run

variable {limit : Int} {pace : Pace}

theorem run_of_limit_le (reached : limit ≤ machine.tick) :
    machine.run limit pace = ⟨.ok .stopped, machine, []⟩ := by
  have none_left : (limit - machine.tick).toNat = 0 := by omega
  rw [run, none_left]
  rfl

theorem run_of_pause (below : machine.tick < limit) (here : pace.pauseTick = some machine.tick) :
    machine.run limit pace = ⟨.ok .paused, machine, [.paused machine.tick]⟩ := by
  obtain ⟨turns, some_left⟩ : ∃ turns, (limit - machine.tick).toNat = turns + 1 :=
    ⟨(limit - machine.tick).toNat - 1, by omega⟩
  rw [run, some_left, runFor, if_pos here]
  rfl

/-- A run that takes a step goes one turn and then, unless that ended it, runs on. -/
theorem run_of_begins (begins : machine.Begins limit pace) :
    machine.run limit pace =
      match machine.turn pace.stepsPerTimerTick with
      | ⟨.error fault, left, events⟩ => ⟨.error fault, left, events⟩
      | ⟨.ok (some ending), left, events⟩ => ⟨.ok ending, left, events⟩
      | ⟨.ok none, left, events⟩ =>
        { left.run limit pace with events := events ++ (left.run limit pace).events } := by
  have below := begins.below
  obtain ⟨turns, some_left⟩ : ∃ turns, (limit - machine.tick).toNat = turns + 1 :=
    ⟨(limit - machine.tick).toNat - 1, by omega⟩
  rw [run, some_left, runFor, if_neg begins.unpaused]
  rcases turned : machine.turn pace.stepsPerTimerTick with ⟨fault | ending, left, events⟩
  · rfl
  · cases ending with
    | some ending => rfl
    | none =>
      -- the turn has raised the tick, so as many turns are left as the rest begins with
      have later := tick_turn (congrArg Outcome.result turned)
      rw [turned] at later
      have rest : (limit - left.tick).toNat = turns := by
        simp only at later
        omega
      simp only [run, rest, List.append_nil]
      rw [runFor_log, List.reverse_reverse]

theorem run_of_error (begins : machine.Begins limit pace) {fault : Fault}
    (failed : machine.step.result = .error fault) :
    machine.run limit pace = ⟨.error fault, machine.step.machine, machine.step.events⟩ := by
  rw [run_of_begins begins, turn_of_error failed]

section Nonzero

variable (begins : machine.Begins limit pace) (nonzero : pace.stepsPerTimerTick ≠ 0)

include begins nonzero

theorem run_of_waiting (waits : machine.step.result = .ok .waiting) :
    machine.run limit pace =
      ⟨.ok .waiting, machine.turned pace.stepsPerTimerTick,
        machine.reports (machine.turnCalls pace.stepsPerTimerTick) ++
          [.keyWaitEnded (machine.turned pace.stepsPerTimerTick).tick]⟩ := by
  rw [run_of_begins begins, turn_of_waiting nonzero waits]

theorem run_of_jumpsToItself (went : machine.step.result = .ok .running)
    (jumps : machine.JumpsToItself) :
    machine.run limit pace =
      ⟨.ok .halted, machine.turned pace.stepsPerTimerTick,
        machine.reports (machine.turnCalls pace.stepsPerTimerTick) ++
          [.selfJump (machine.turned pace.stepsPerTimerTick).tick machine.counter]⟩ := by
  rw [run_of_begins begins, turn_of_jumpsToItself nonzero went jumps]

theorem run_of_goesOn (on : machine.GoesOn) :
    machine.run limit pace =
      { (machine.turned pace.stepsPerTimerTick).run limit pace with
        events :=
          machine.reports (machine.turnCalls pace.stepsPerTimerTick) ++
            ((machine.turned pace.stepsPerTimerTick).run limit pace).events } := by
  rw [run_of_begins begins, turn_of_goesOn nonzero on]

end Nonzero

end Run

end Chip8.Machine
