/-
# Standing still

A jump to its own address changes nothing but the tick, and so the same jump comes next:
a run that has halted at one would have gone on with it for ever. A run that meets such a
jump ends there, so it never goes on at one either.

Two other instructions can lead to their own address. A call to itself puts an address on
the return stack each time and ends by filling it. A jump ahead by V0 to itself changes as
little as a plain jump does, but is no reason to end a run, which then comes to its limit.

The three are told apart by the operation alone, and what makes each come again is that the
machine stands at the same place afterwards.

Standing still raises the tick, and a machine that reports its steps has no report for a tick
of too many digits. So what is said of further steps is what each answers if it can be
reported, and what is said of runs asks that their ticks can be written.
-/

import Chip8.Proofs.Calls
import Chip8.Proofs.Run.Outcome
import Chip8.Proofs.Word

namespace Chip8.Machine

/-- The next step calls the address it is read from. -/
structure CallsItself (machine : Machine) : Prop where
  calls : machine.Next .call
  toOrigin : machine.nextWord.address = machine.counter

/-- The next step jumps ahead by V0, to the address it is read from. -/
structure JumpsAheadToItself (machine : Machine) : Prop where
  jumps : machine.Next .jumpOffset
  toOrigin :
    machine.nextWord.address + UInt16.ofNat (machine.registers.get 0).toNat = machine.counter

variable {machine left : Machine} {ratio limit : Int} {pace : Pace} {steps turns : Nat}
  {result : Except Fault RunEnd}

/-! ## Coming back to the same place -/

theorem SamePlace.turned (same : machine.SamePlace machine.step.machine) (ratio : Int) :
    machine.SamePlace (machine.turned ratio) := by
  rcases turned_cases machine ratio with stepped | ticked
  · rw [stepped]
    exact same
  · rw [ticked]
    exact same.trans (samePlace_tickTimers machine.step.machine)

theorem stack_turned (machine : Machine) (ratio : Int) :
    (machine.turned ratio).stack = machine.step.machine.stack := by
  rcases turned_cases machine ratio with stepped | ticked
  · rw [stepped]
  · rw [ticked]
    rfl

theorem registers_turned (machine : Machine) (ratio : Int) :
    (machine.turned ratio).registers = machine.step.machine.registers := by
  rcases turned_cases machine ratio with stepped | ticked
  · rw [stepped]
  · rw [ticked]
    rfl

/-- A step that runs an operation other than a plain jump does not end a run. -/
theorem Next.goesOn {operation : Operation} (next : machine.Next operation)
    (other : operation ≠ .jump) (runs : machine.step.result = .ok .running) : machine.GoesOn :=
  ⟨runs, fun itself => other (next.unique itself.jumps)⟩

/-! ## Jumps to themselves -/

namespace JumpsToItself

theorem samePlace {after : Machine} (itself : machine.JumpsToItself)
    (same : machine.SamePlace after) : after.JumpsToItself where
  jumps := same.next itself.jumps
  toOrigin := by
    rw [same.nextWord, same.counter]
    exact itself.toOrigin

/-- The word of a jump holds where it leads, and this one leads to where it lies. -/
theorem toNat_nextWord (itself : machine.JumpsToItself) :
    machine.nextWord.toNat = 0x1000 + machine.counter.toNat := by
  have family : machine.nextWord.toNat / 4096 = 1 := itself.jumps.row
  rw [← itself.toOrigin, Word.toNat_address]
  omega

theorem counter_lt (itself : machine.JumpsToItself) : machine.counter.toNat < 0x1000 :=
  Nat.lt_of_le_of_lt itself.jumps.inside (by decide)

theorem nextWord_eq_or (itself : machine.JumpsToItself) :
    machine.nextWord = 0x1000 ||| machine.counter := by
  apply UInt16.toNat_inj.mp
  rw [itself.toNat_nextWord, Word.toNat_or_of_lt 12 (by decide) itself.counter_lt]
  rfl

theorem machine_step (itself : machine.JumpsToItself) :
    machine.step.machine = { machine with tick := machine.tick + 1, last := some .jump } := by
  rw [machine_step_of_done itself.jumps rfl]
  show { machine.movedOn with
    counter := machine.nextWord.address, tick := machine.tick + 1, last := some .jump } = _
  rw [itself.toOrigin]
  rfl

theorem samePlace_step (itself : machine.JumpsToItself) :
    machine.SamePlace machine.step.machine := by
  rw [itself.machine_step]
  exact ⟨rfl, rfl⟩

/-- Once a jump to itself is noted, doing it again changes the tick and nothing else. -/
theorem after_steps (itself : machine.JumpsToItself) (noted : machine.last = some .jump)
    (steps : Nat) :
    machine.after (List.replicate steps .step) = { machine with tick := machine.tick + steps } := by
  induction steps generalizing machine with
  | zero =>
    show machine = { machine with tick := machine.tick + (0 : Nat) }
    rw [Int.natCast_zero, Int.add_zero]
  | succ steps ih =>
    have stepped : machine.step.machine = { machine with tick := machine.tick + 1 } := by
      rw [itself.machine_step, ← noted]
    have rest := ih (itself.samePlace itself.samePlace_step) (by rw [stepped]; exact noted)
    have ticks : machine.tick + 1 + (steps : Int) = machine.tick + (steps + 1 : Nat) := by omega
    show machine.step.machine.after (List.replicate steps .step) = _
    rw [rest, stepped, ← ticks]

theorem result_step (itself : machine.JumpsToItself) :
    machine.step.result = machine.stepAnswer .running :=
  result_step_of_done itself.jumps rfl

/-- Any number of further steps go through, if they can be reported. -/
theorem stands_still (itself : machine.JumpsToItself) (noted : machine.last = some .jump)
    (steps : Nat) :
    let later := machine.after (List.replicate steps .step)
    later.step.result = later.stepAnswer .running ∧
      later = { machine with tick := machine.tick + steps } := by
  have still := itself.after_steps noted steps
  have again : (machine.after (List.replicate steps .step)).JumpsToItself := by
    rw [still]
    exact itself.samePlace ⟨rfl, rfl⟩
  exact ⟨again.result_step, still⟩

end JumpsToItself

/-! ## Halting -/

theorem turn_zero (machine : Machine) : ∃ fault, (machine.turn 0).result = .error fault := by
  rw [turn]
  rcases machine.step with ⟨fault | status, stepped, events⟩
  · exact ⟨fault, rfl⟩
  · exact ⟨.zeroTimerRatio, rfl⟩

/-- A timer period at every multiple of zero is a fault, so no such run comes to halt. -/
theorem ratio_ne_zero_of_halted (halted : (machine.run limit pace).result = .ok .halted) :
    pace.stepsPerTimerTick ≠ 0 := by
  intro zero
  rcases Int.lt_or_le machine.tick limit with below | reached
  · by_cases here : pace.pauseTick = some machine.tick
    · rw [run_of_pause below here] at halted
      cases halted
    · obtain ⟨fault, failed⟩ := turn_zero machine
      rw [run_of_begins ⟨below, here⟩, zero] at halted
      generalize machine.turn 0 = outcome at halted failed
      rcases outcome with ⟨result, left, events⟩
      cases failed
      cases halted
  · rw [run_of_limit_le reached] at halted
    cases halted

/-- A run that has halted has left its machine before the jump that it did last. -/
theorem Ends.jumpsToItself (ending : Ends limit pace machine steps (.ok .halted) left) :
    left.JumpsToItself ∧ left.last = some .jump := by
  cases ending with
  | halts begins runs itself =>
    refine ⟨itself.samePlace (itself.samePlace_step.turned pace.stepsPerTimerTick), ?_⟩
    rw [last_turned, itself.machine_step]

theorem Loop.jumpsToItself (loop : Loop limit pace machine steps (.ok .halted) left) :
    left.JumpsToItself ∧ left.last = some .jump := by
  obtain ⟨_, _, _, _, ending⟩ := loop_iff.mp loop
  exact ending.jumpsToItself

/-- The step that jumps to itself is the last one of its run. -/
theorem Loop.halted_of_jumpsToItself (nonzero : pace.stepsPerTimerTick ≠ 0)
    (loop : Loop limit pace machine steps result left) {turn : Nat} (less : turn < steps)
    (itself : (course pace.stepsPerTimerTick machine turn).JumpsToItself) :
    result = .ok .halted ∧ steps = turn + 1 := by
  obtain ⟨passes, begins⟩ := loop.begins less
  obtain ⟨_, went⟩ := loop.step_ok less
  have runs := itself.runs (reportable_of_ok went)
  obtain ⟨counted, answer, _⟩ := loop.eq_of_ends nonzero passes (.halts begins runs itself)
  exact ⟨answer.symm, counted.symm⟩

/-! ## Calls to themselves -/

namespace CallsItself

theorem samePlace {after : Machine} (itself : machine.CallsItself)
    (same : machine.SamePlace after) : after.CallsItself where
  calls := same.next itself.calls
  toOrigin := by
    rw [same.nextWord, same.counter]
    exact itself.toOrigin

theorem samePlace_step (itself : machine.CallsItself) {status : Status}
    (went : machine.step.result = .ok status) : machine.SamePlace machine.step.machine := by
  have left := machine_step_of_ok itself.calls went
  rw [result_step itself.calls (reportable_of_ok went)] at went
  obtain ⟨stack, _, done⟩ := goAndRemember_ok went
  rw [left]
  show machine.SamePlace
    ((machine.movedOn.goAndRemember machine.nextWord.address).machine.advance _)
  rw [done]
  exact ⟨rfl, itself.toOrigin⟩

theorem turned (itself : machine.CallsItself) {status : Status}
    (went : machine.step.result = .ok status) (ratio : Int) :
    (machine.turned ratio).CallsItself :=
  itself.samePlace ((itself.samePlace_step went).turned ratio)

theorem depth_turned (itself : machine.CallsItself) {status : Status}
    (went : machine.step.result = .ok status) (ratio : Int) :
    (machine.turned ratio).stack.depth = machine.stack.depth + 1 := by
  rw [stack_turned]
  exact (step_call itself.calls went).1

theorem runs (itself : machine.CallsItself) (free : machine.stack.depth < 16)
    (reportable : machine.Reportable) : machine.step.result = .ok .running := by
  rw [result_step itself.calls reportable]
  have room : machine.movedOn.stack.depth < 16 := free
  show (machine.movedOn.goAndRemember machine.nextWord.address).result = _
  rw [goAndRemember, ReturnStack.push_of_lt room]
  rfl

theorem stops (itself : machine.CallsItself) (full : machine.stack.depth = 16) :
    (exec .call machine.nextWord machine.movedOn).result =
      .error (.stackFull (machine.counter.toNat + 2)) := by
  have behind : (machine.movedOn.counter.toNat : Int) = machine.counter.toNat + 2 := by
    rw [counter_movedOn machine itself.calls.inside]
    rfl
  rw [← behind]
  have bounded : machine.movedOn.stack.depth ≤ 16 := Nat.le_of_eq full
  exact (goAndRemember_error_iff machine.movedOn bounded _).mpr ⟨full, rfl⟩

/-- Each turn takes one free slot, and the call after the last one fails. -/
theorem exists_loop (itself : machine.CallsItself) (unpaused : pace.pauseTick = none)
    (slots : machine.stack.depth + steps = 16) (enough : machine.tick + steps < limit)
    (told : machine.TellsTicks (machine.tick + steps)) :
    ∃ left, Loop limit pace machine steps (.error (.stackFull (machine.counter.toNat + 2))) left ∧
      left.stack.depth = 16 := by
  induction steps generalizing machine with
  | zero =>
    have begins : machine.Begins limit pace := ⟨by omega, by rw [unpaused]; nofun⟩
    have failed := (result_step_error_iff itself.calls).mpr (.inl (itself.stops slots))
    refine ⟨machine.step.machine, .ends (.fails begins failed), ?_⟩
    rw [step_of_stopped itself.calls (itself.stops slots)]
    exact slots
  | succ steps ih =>
    have begins : machine.Begins limit pace := ⟨by omega, by rw [unpaused]; nofun⟩
    have runs := itself.runs (by omega) (told.reportable (by omega))
    have on := itself.calls.goesOn (by decide) runs
    have deeper := itself.depth_turned runs pace.stepsPerTimerTick
    have later := on.tick_turned pace.stepsPerTimerTick
    have same := (itself.samePlace_step runs).turned pace.stepsPerTimerTick
    have told_later := told.turned on pace.stepsPerTimerTick
    have as_far : machine.tick + (steps + 1 : Nat) =
        (machine.turned pace.stepsPerTimerTick).tick + steps := by omega
    rw [as_far] at told_later
    obtain ⟨left, rest, full⟩ :=
      ih (itself.turned runs pace.stepsPerTimerTick) (by omega) (by omega) told_later
    rw [same.counter] at rest
    exact ⟨left, .goesOn begins on rest, full⟩

/-- A run that is long enough makes as many calls as there are free slots. -/
theorem fills (itself : machine.CallsItself) (nonzero : pace.stepsPerTimerTick ≠ 0)
    (loop : Loop limit pace machine steps result left) (bounded : machine.stack.depth ≤ 16)
    (unpaused : pace.pauseTick = none)
    (enough : machine.tick + (16 - machine.stack.depth) < limit)
    (told : machine.TellsTicks (machine.tick + (16 - machine.stack.depth))) :
    steps = 16 - machine.stack.depth ∧
      result = .error (.stackFull (machine.counter.toNat + 2)) ∧ left.stack.depth = 16 := by
  have slots : machine.stack.depth + (16 - machine.stack.depth) = 16 := by omega
  have far : machine.tick + (16 - machine.stack.depth : Nat) < limit := by omega
  have told_far : machine.TellsTicks (machine.tick + (16 - machine.stack.depth : Nat)) := by
    rw [Int.ofNat_sub bounded]
    exact told
  obtain ⟨last, filled, full⟩ := itself.exists_loop unpaused slots far told_far
  obtain ⟨counted, answer, reached⟩ := loop.unique nonzero filled
  refine ⟨counted.symm, answer.symm, ?_⟩
  rw [← reached]
  exact full

/-- However long it runs, a call to itself is never taken for a halt. -/
theorem ne_halted (itself : machine.CallsItself)
    (loop : Loop limit pace machine steps result left) : result ≠ .ok .halted := by
  induction loop with
  | ends ending =>
    rintro rfl
    cases ending with
    | halts _ _ jumps => cases itself.calls.unique jumps.jumps
  | goesOn _ on _ ih => exact ih (itself.turned on.runs _)

end CallsItself

/-! ## Jumps ahead to themselves -/

namespace JumpsAheadToItself

theorem runs (itself : machine.JumpsAheadToItself) (reportable : machine.Reportable) :
    machine.step.result = .ok .running := by
  rw [result_step itself.jumps reportable]
  rfl

theorem machine_step (itself : machine.JumpsAheadToItself) :
    machine.step.machine =
      { machine with tick := machine.tick + 1, last := some .jumpOffset } := by
  rw [machine_step_of_done itself.jumps rfl]
  show { machine.movedOn with
    counter := machine.nextWord.address + UInt16.ofNat (machine.registers.get 0).toNat
    tick := machine.tick + 1
    last := some .jumpOffset } = _
  rw [itself.toOrigin]
  rfl

theorem turned (itself : machine.JumpsAheadToItself) (ratio : Int) :
    (machine.turned ratio).JumpsAheadToItself := by
  have same : machine.SamePlace (machine.turned ratio) := by
    apply SamePlace.turned
    rw [itself.machine_step]
    exact ⟨rfl, rfl⟩
  have kept : (machine.turned ratio).registers = machine.registers := by
    rw [registers_turned, itself.machine_step]
  exact ⟨same.next itself.jumps, by rw [same.nextWord, same.counter, kept]; exact itself.toOrigin⟩

theorem stopped (itself : machine.JumpsAheadToItself) (unpaused : pace.pauseTick = none)
    (told : machine.TellsTicks limit) (loop : Loop limit pace machine steps result left) :
    result = .ok .stopped := by
  induction loop with
  | goesOn _ on _ ih => exact ih (itself.turned _) (told.turned on _)
  | ends ending =>
    cases ending with
    | limitReached => rfl
    | pauses _ here =>
      rw [unpaused] at here
      cases here
    | fails begins failed =>
      rw [itself.runs (told.reportable begins.below)] at failed
      cases failed
    | waits begins waits =>
      rw [itself.runs (told.reportable begins.below)] at waits
      cases waits
    | halts _ _ jumps => cases itself.jumps.unique jumps.jumps

end JumpsAheadToItself

/-! ## Halts are final, and other loops are no halts -/

/-- A run that has halted stands at a jump to itself, and any further steps go through, if they
can be reported, and change the tick alone. A call to itself never halts a run, whatever its
pace. Where the pace is not the one that is a fault after any step, a step of a run that jumps
to itself and can be reported always halts it. So long as ticks can be written, a call to itself
goes through as often as there are free slots and then fails, and a jump ahead to itself goes
on to the limit. -/
theorem halted_stands_still (limit : Int) (pace : Pace) (machine : Machine) :
    let before := course pace.stepsPerTimerTick machine
    let outcome := machine.run limit pace
    let left := outcome.machine
    (outcome.result = .ok .halted →
      left.memory.fetch left.counter.toNat = .ok (0x1000 ||| left.counter) ∧
      ∀ steps : Nat,
        let later := left.after (List.replicate steps .step)
        later.step.result = later.stepAnswer .running ∧
          later = { left with tick := left.tick + steps }) ∧
    (machine.CallsItself → outcome.result ≠ .ok .halted) ∧
    (pace.stepsPerTimerTick ≠ 0 → ∃ steps : Nat,
      Loop limit pace machine steps outcome.result left ∧
      (∀ turn < steps, (before turn).JumpsToItself →
        outcome.result = .ok .halted ∧ steps = turn + 1 ∧
          left.tick = (before turn).tick + 1) ∧
      (machine.CallsItself → machine.stack.depth ≤ 16 → pace.pauseTick = none →
        machine.tick + (16 - machine.stack.depth) < limit →
        machine.TellsTicks (machine.tick + (16 - machine.stack.depth)) →
        steps = 16 - machine.stack.depth ∧
          outcome.result = .error (.stackFull (machine.counter.toNat + 2)) ∧
          left.stack.depth = 16) ∧
      (machine.JumpsAheadToItself → pace.pauseTick = none → machine.TellsTicks limit →
        outcome.result = .ok .stopped ∧ left.tick = max machine.tick limit)) := by
  intro before outcome left
  refine ⟨?_, ?_, ?_⟩
  · intro halted
    obtain ⟨steps, loop⟩ := loop_run limit pace (ratio_ne_zero_of_halted halted) machine
    rw [halted] at loop
    obtain ⟨itself, noted⟩ := loop.jumpsToItself
    refine ⟨?_, fun more => itself.stands_still noted more⟩
    rw [fetch_of_le left itself.jumps.inside, itself.nextWord_eq_or]
  · intro itself halted
    obtain ⟨_, loop⟩ := loop_run limit pace (ratio_ne_zero_of_halted halted) machine
    exact itself.ne_halted loop halted
  · intro nonzero
    obtain ⟨steps, loop⟩ := loop_run limit pace nonzero machine
    refine ⟨steps, loop, ?_, ?_, ?_⟩
    · intro turn less itself
      obtain ⟨halted, rfl⟩ := loop.halted_of_jumpsToItself nonzero less itself
      have arrived : left.tick = machine.tick + (turn + 1 : Nat) := loop.tick_of_ok halted
      have there : (before turn).tick = machine.tick + turn := loop.tick_course less
      exact ⟨halted, rfl, by omega⟩
    · intro itself bounded unpaused enough told
      exact itself.fills nonzero loop bounded unpaused enough told
    · intro itself unpaused told
      have stopped := itself.stopped unpaused told loop
      have reached := ((loop.stopped_iff nonzero).mp stopped).1
      have arrived : left.tick = machine.tick + steps := loop.tick_of_ok stopped
      exact ⟨stopped, arrived.trans reached⟩

/-- A jump to itself; a call to itself with two slots taken; a jump ahead to itself by
nothing, from below tick zero. -/
theorem halted_stands_still_at_three_loops :
    let jumping := bare [0x12, 0x00]
    let calling := { bare [0x22, 0x00] with stack := ⟨Vector.replicate 16 7, 2⟩ }
    let ahead := { bare [0xB2, 0x00] with tick := -3 }
    let left := (jumping.run 9 {}).machine
    (left.after (List.replicate 5 .step) = { left with tick := left.tick + 5 } ∧
      left.memory.fetch left.counter.toNat = .ok (0x1000 ||| left.counter)) ∧
    (calling.run 15 {}).result = .error (.stackFull 0x202) ∧
    (ahead.run 20 {}).machine.tick = 20 := by
  intro jumping calling ahead left
  have halted : (jumping.run 9 {}).result = .ok .halted := by decide +kernel
  have calls : calling.CallsItself := ⟨⟨by decide, by decide +kernel⟩, by decide +kernel⟩
  have jumps : ahead.JumpsAheadToItself := ⟨⟨by decide, by decide +kernel⟩, by decide +kernel⟩
  have told_calls : calling.TellsTicks 14 := tellsTicks_of_isWritable (by decide) (by decide)
  have told_jumps : ahead.TellsTicks 20 := tellsTicks_of_isWritable (by decide) (by decide)
  obtain ⟨final, _⟩ := halted_stands_still 9 {} jumping
  obtain ⟨_, _, others⟩ := halted_stands_still 15 {} calling
  obtain ⟨_, _, _, fills, _⟩ := others (by decide)
  obtain ⟨_, _, limited⟩ := halted_stands_still 20 {} ahead
  obtain ⟨_, _, _, _, goes_on⟩ := limited (by decide)
  obtain ⟨word, still⟩ := final halted
  exact ⟨⟨(still 5).2, word⟩, (fills calls (by decide) rfl (by decide) told_calls).2.1,
    (goes_on jumps rfl told_jumps).2⟩

/-- A run halts at the widest tick; the next step cannot be reported and does not go through. -/
theorem step_refused_after_halt_at_widest_tick :
    let machine := { bare [0x12, 0x00] with tick := widest - 1 }
    let left := (machine.run widest {}).machine
    machine.WellFormed ∧ (machine.run widest {}).result = .ok .halted ∧
      left.step.result ≠ .ok .running := by
  intro machine left
  have itself : machine.JumpsToItself := ⟨⟨by decide +kernel, by decide +kernel⟩, by decide +kernel⟩
  have next_tick : machine.tick + 1 = widest := Int.sub_add_cancel widest 1
  have begins : machine.Begins widest {} := ⟨by omega, nofun⟩
  have runs : machine.step.result = .ok .running := by
    apply itself.runs
    right
    rw [next_tick]
    exact isWritable_widest
  have halts := run_of_ends (by decide) (.halts begins runs itself)
  refine ⟨⟨Nat.zero_le 16, by decide⟩, halts.1, ?_⟩
  intro went
  apply not_reportable_of_widest left _ _ (reportable_of_ok went)
  · exact congrArg Settings.quiet ((congrArg Machine.settings halts.2).trans (settings_turned _ _))
  · rw [← next_tick, ← tick_step_of_ok runs, ← tick_turned machine 10]
    exact congrArg Machine.tick halts.2

end Chip8.Machine
