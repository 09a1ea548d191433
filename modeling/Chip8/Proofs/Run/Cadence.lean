/-
# The end of the sound and the cadence of timers

A run reports what its calls report and, at its end, why it ended. No instruction reports
that the sound has ended; only a timer period does, and only one that brings the sound
timer from one to zero. While no instruction sets that timer, it comes down to zero once.

With what is known of the timers themselves this gives the cadence of a run: how many
timer periods it lets pass, where they leave both timers, and what is heard of it.
-/

import Chip8.Proofs.Run.Timers
import Chip8.Proofs.Text.Event
import Mathlib.Control.Monad.Basic

namespace Chip8

theorem count_soundExpired_loggedLines (events : List Event) :
    (loggedLines events).count "sound timer expired" = events.count .soundExpired := by
  rw [List.count, loggedLines, List.countP_filterMap, List.count]
  apply List.countP_congr
  intro event _
  rw [beq_iff_eq, ← Event.line?_eq_soundExpired_iff]
  cases event.line? with
  | _ => simp

namespace Machine

variable {machine left : Machine} {ratio limit : Int} {pace : Pace} {turns steps : Nat}
  {result : Except Fault RunEnd}

/-! ## What instructions report -/

theorem soundExpired_notMem_step (machine : Machine) : .soundExpired ∉ machine.step.events := by
  rcases step_beginnings machine with past | ⟨inside, unknown⟩ | ⟨operation, next⟩
  · rw [step_of_past machine past]
    simp [stepFault]
  · rw [step_of_unknown machine inside unknown]
    simp [stepFault]
  · have silent : .soundExpired ∉ (exec operation machine.nextWord machine.movedOn).events :=
      fun reported => ofOperation_exec machine.movedOn machine.nextWord _ reported
    rw [step_of_next next]
    rcases done : exec operation machine.nextWord machine.movedOn with
      ⟨fault | status, left, events⟩
    · simp [stepFault]
    · rw [done] at silent
      simp only [conclude, stepReport]
      split_ifs
      · simpa using silent
      · simpa using silent
      · exact silent

/-! ## What turns and runs report -/

/-- A turn reports the end of the sound exactly if its timer period brings it about. -/
theorem count_soundExpired_turn (unset : ¬ machine.Next .setSound) (ratio : Int) :
    (machine.reports (machine.turnCalls ratio)).count .soundExpired =
      if machine.sound.toNat = 1 ∧ machine.step.machine.tick % ratio = 0 then 1 else 0 := by
  have silent := List.count_eq_zero.mpr (soundExpired_notMem_step machine)
  have kept : machine.step.machine.sound = machine.sound := Timer.sound.value_step unset
  by_cases due : machine.step.machine.tick % ratio = 0
  · have one : machine.sound = 1 ↔ machine.sound.toNat = 1 := UInt8.toNat_inj.symm
    rw [reports_turnCalls_of_due machine due, List.count_append, silent, tickTimers, kept]
    simp only [one, due, and_true, Nat.zero_add]
    split
    · rfl
    · rfl
  · rw [reports_turnCalls_of_not_due machine due, silent, if_neg (fun both => due both.2)]

/-- Turns that do not set the sound timer report its end once, if it ends in them. -/
theorem count_soundExpired_calls
    (unset : ∀ turn < turns, ¬ (course ratio machine turn).Next .setSound) :
    (machine.reports (calls ratio machine turns)).count .soundExpired =
      if 0 < machine.sound.toNat ∧ machine.sound.toNat ≤ periods ratio machine turns then 1
      else 0 := by
  induction turns generalizing machine with
  | zero =>
    have never : ¬ (0 < machine.sound.toNat ∧ machine.sound.toNat ≤ 0) := by omega
    exact (if_neg never).symm
  | succ turns ih =>
    have unset_first : ¬ machine.Next .setSound := unset 0 (Nat.zero_lt_succ turns)
    have first := count_soundExpired_turn unset_first ratio
    have sound : (machine.turned ratio).sound.toNat = _ :=
      Timer.sound.toNat_value_turned unset_first ratio
    have rest := ih fun turn less => unset (turn + 1) (Nat.succ_lt_succ less)
    rw [calls, reports_append, List.count_append, first, periods_succ]
    show _ + ((machine.turned ratio).reports (calls ratio (machine.turned ratio) turns)).count _ = _
    rw [rest, sound]
    simp only [Timer.value]
    split_ifs <;> omega

theorem Ends.events_eq (nonzero : pace.stepsPerTimerTick ≠ 0)
    (ending : Ends limit pace machine steps result left) :
    ∃ closing, .soundExpired ∉ closing ∧
      (machine.run limit pace).events =
        machine.reports (loopCalls pace.stepsPerTimerTick machine steps result) ++ closing := by
  cases ending with
  | limitReached reached =>
    refine ⟨[], List.not_mem_nil, ?_⟩
    rw [run_of_limit_le reached]
    rfl
  | pauses below here =>
    refine ⟨[.paused machine.tick], by simp, ?_⟩
    rw [run_of_pause below here]
    rfl
  | fails begins failed =>
    refine ⟨[], List.not_mem_nil, ?_⟩
    rw [run_of_error begins failed]
    simp [loopCalls, calls, reports, perform, Outcome.map]
  | waits begins waits =>
    refine ⟨[.keyWaitEnded (machine.turned pace.stepsPerTimerTick).tick], by simp, ?_⟩
    rw [run_of_waiting begins nonzero waits, loopCalls, calls, calls, List.append_nil]
  | halts begins runs jumps =>
    refine ⟨[.selfJump (machine.turned pace.stepsPerTimerTick).tick machine.counter], by simp, ?_⟩
    rw [run_of_jumpsToItself begins nonzero runs jumps, loopCalls, calls, calls, List.append_nil]

theorem loopCalls_succ (ratio : Int) (machine : Machine) (steps : Nat)
    (result : Except Fault RunEnd) :
    loopCalls ratio machine (steps + 1) result =
      machine.turnCalls ratio ++ loopCalls ratio (machine.turned ratio) steps result := by
  cases result with
  | ok ending => rfl
  | error fault => exact List.append_assoc _ _ _

/-- A run reports what its calls report and then at most why it ended. -/
theorem Loop.events_eq (nonzero : pace.stepsPerTimerTick ≠ 0)
    (loop : Loop limit pace machine steps result left) :
    ∃ closing, .soundExpired ∉ closing ∧
      (machine.run limit pace).events =
        machine.reports (loopCalls pace.stepsPerTimerTick machine steps result) ++ closing := by
  induction loop with
  | ends ending => exact ending.events_eq nonzero
  | goesOn begins on _ ih =>
    obtain ⟨closing, other, rest⟩ := ih
    refine ⟨closing, other, ?_⟩
    rw [run_of_goesOn begins nonzero on, loopCalls_succ, reports_append, List.append_assoc, rest]
    rfl

theorem Loop.count_soundExpired (nonzero : pace.stepsPerTimerTick ≠ 0)
    (loop : Loop limit pace machine steps result left)
    (unset : ∀ turn < steps, ¬ (course pace.stepsPerTimerTick machine turn).Next .setSound) :
    (machine.run limit pace).events.count .soundExpired =
      if 0 < machine.sound.toNat ∧
        machine.sound.toNat ≤ periods pace.stepsPerTimerTick machine steps then 1 else 0 := by
  obtain ⟨closing, other, events⟩ := loop.events_eq nonzero
  have reported := count_soundExpired_calls unset
  rw [events, List.count_append, List.count_eq_zero.mpr other, Nat.add_zero, ← reported]
  cases result with
  | ok ending => rfl
  | error fault =>
    have silent := soundExpired_notMem_step (course pace.stepsPerTimerTick machine steps)
    rw [loopCalls, reports_append, List.count_append, after_calls]
    simp [reports, perform, Outcome.map, List.count_eq_zero.mpr silent]

/-! ## Cadence -/

/-- A run lets one timer period pass for each multiple of the ratio that its tick comes to,
that is, as many as the rounded-down quotients of its last and its first tick are apart.
A timer that no instruction sets goes down by so much, but not below zero, and the end of
the sound is told exactly once if the sound timer was running and has come to zero. All this
is for runs that end by an answer or by a fault of the machine. -/
theorem run_timer_cadence (limit : Int) (pace : Pace) (positive : 1 ≤ pace.stepsPerTimerTick)
    (machine : Machine) (ended : EndsReported (machine.run limit pace).result) :
    let ratio := pace.stepsPerTimerTick
    let outcome := machine.run limit pace
    let before := course ratio machine
    let passed := outcome.machine.tick / ratio - machine.tick / ratio
    ∃ steps : Nat,
      Loop limit pace machine steps outcome.result outcome.machine ∧
      outcome.machine = machine.after (loopCalls ratio machine steps outcome.result) ∧
      ((loopCalls ratio machine steps outcome.result).countP Command.ticksTimers : Int) = passed ∧
      ((∀ turn < steps, ¬ (before turn).Next .setDelay) →
        (outcome.machine.delay.toNat : Int) = max 0 (machine.delay.toNat - passed)) ∧
      ((∀ turn < steps, ¬ (before turn).Next .setSound) →
        let value := max 0 ((machine.sound.toNat : Int) - passed)
        (outcome.machine.sound.toNat : Int) = value ∧
          (outcome.machine.soundOn = true ↔ 0 < value) ∧
          (loggedLines outcome.events).count "sound timer expired" =
            if 0 < machine.sound.toNat ∧ value = 0 then 1 else 0) := by
  intro ratio outcome before passed
  have nonzero : pace.stepsPerTimerTick ≠ 0 := by omega
  obtain ⟨steps, loop⟩ := loop_run limit pace nonzero machine
  have counted : (periods ratio machine steps : Int) = passed :=
    loop.periods_eq positive ended
  refine ⟨steps, loop, loop.left_eq, ?_, ?_, ?_⟩
  · rw [countP_loopCalls]
    exact counted
  · intro unset
    have down : outcome.machine.delay.toNat = machine.delay.toNat - periods ratio machine steps :=
      Timer.delay.toNat_value_left loop ended unset
    omega
  · intro unset value
    have down : outcome.machine.sound.toNat = machine.sound.toNat - periods ratio machine steps :=
      Timer.sound.toNat_value_left loop ended unset
    have left : (outcome.machine.sound.toNat : Int) = value := by omega
    have told : outcome.events.count .soundExpired = _ := loop.count_soundExpired nonzero unset
    refine ⟨left, ?_, ?_⟩
    · rw [← left, soundOn, decide_eq_true_iff, UInt8.lt_iff_toNat_lt]
      exact Int.ofNat_lt.symm
    · have ended : value = 0 ↔ machine.sound.toNat ≤ periods ratio machine steps := by omega
      rw [count_soundExpired_loggedLines, told]
      simp only [ended]
      rfl

/-- From three ticks below zero to one above, two steps to a period: two periods pass, and
the second ends the sound. -/
theorem run_timer_cadence_from_below_zero :
    let machine : Machine :=
      { bare [0x70, 0x01, 0x12, 0x00] with tick := -3, delay := 9, sound := 2 }
    let outcome := machine.run 1 ⟨2, none⟩
    outcome.machine.delay.toNat = 7 ∧ outcome.machine.sound.toNat = 0 ∧
      (loggedLines outcome.events).count "sound timer expired" = 1 := by
  intro machine outcome
  have arrived : outcome.machine.tick = 1 := by decide +kernel
  have words : ∀ turn < 4, decode (course 2 machine turn).nextWord ≠ some .setDelay ∧
      decode (course 2 machine turn).nextWord ≠ some .setSound := by decide +kernel
  have stopped : outcome.result = .ok .stopped := by decide +kernel
  have ended : EndsReported outcome.result := by
    intro fault failed
    rw [stopped] at failed
    cases failed
  obtain ⟨steps, loop, _, _, delay, sound⟩ :=
    run_timer_cadence 1 ⟨2, none⟩ (by decide) machine ended
  have start : machine.tick = -3 := rfl
  have passed : outcome.machine.tick / 2 - machine.tick / 2 = 2 := by
    rw [arrived, start]
    decide
  have four : steps = 4 := by
    have counted : outcome.machine.tick = machine.tick + steps := loop.tick_of_ok stopped
    omega
  subst four
  have down : (outcome.machine.delay.toNat : Int) =
      max 0 (9 - (outcome.machine.tick / 2 - machine.tick / 2)) :=
    delay fun turn less next => (words turn less).1 next.decoded
  have silent : (outcome.machine.sound.toNat : Int) =
        max 0 (2 - (outcome.machine.tick / 2 - machine.tick / 2)) ∧ _ ∧
      (loggedLines outcome.events).count "sound timer expired" =
        if 0 < 2 ∧ max 0 (2 - (outcome.machine.tick / 2 - machine.tick / 2)) = 0 then 1 else 0 :=
    sound fun turn less next => (words turn less).2 next.decoded
  rw [passed] at down silent
  obtain ⟨zero, _, told⟩ := silent
  exact ⟨by omega, by omega, told⟩

end Machine

end Chip8
