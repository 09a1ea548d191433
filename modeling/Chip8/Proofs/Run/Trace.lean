/-
# The trace of a run

A run reports what its turns report. A turn whose step goes through reports the snapshot of that
step, and beside it only what an operation, a timer period or the end of the run has to tell. A
step that fails ends the run, and its fault, if it is one of the machine, is the last thing
reported. So, by induction on the turns, the snapshots of a run that is not quiet are those of its
steps in order, one for each tick that it counts and can write, and there is a fault among its
reports only at the end and only if a step failed.

The main statement says this of the lines of a log, in which traces and faults are known by their
words among the other lines.
-/

import Chip8.Proofs.Logging
import Chip8.Proofs.Text.FaultLine

namespace Chip8

/-! ## Lines and events -/

/-- The event is neither the trace of a step nor a fault. -/
def Event.IsAside (event : Event) : Prop :=
  event.snapshot? = none ∧ event.isFault = false

/-- No fault is among the events. -/
def Faultless (events : List Event) : Prop :=
  ∀ event ∈ events, event.isFault = false

theorem snapshotsOf_of_asides {events : List Event} (asides : ∀ event ∈ events, event.IsAside) :
    snapshotsOf events = [] :=
  List.filterMap_eq_nil_iff.mpr fun event reported => (asides event reported).1

theorem faultless_of_asides {events : List Event} (asides : ∀ event ∈ events, event.IsAside) :
    Faultless events :=
  fun event reported => (asides event reported).2

theorem Faultless.append {events more : List Event} (first : Faultless events)
    (second : Faultless more) : Faultless (events ++ more) :=
  List.forall_mem_append.mpr ⟨first, second⟩

theorem Faultless.filter_isFaultLine {events : List Event} (faultless : Faultless events) :
    (loggedLines events).filter isFaultLine = [] := by
  rw [List.filter_eq_nil_iff]
  intro line listed
  obtain ⟨event, reported, logged⟩ := List.mem_filterMap.mp listed
  rw [Event.line?, Option.ite_none_right_eq_some] at logged
  rw [← Option.some.inj logged.2, isFaultLine_message (faultless event reported)]
  exact Bool.false_ne_true

section Faulted

variable {earlier events : List Event} {tick : Int} {origin : Word} {fault : Fault}
  (faultless : Faultless earlier) (reported : events = earlier ++ [.faulted tick origin fault])

include faultless reported

/-- A fault at a tick that can be written has the one line that tells of a fault, as the last. -/
theorem Faultless.lines_of_writable (writable : IsWritable tick) :
    let told := "[tick " ++ Numeral.decimal 1 tick ++ "] fault at PC " ++
      Numeral.hex 3 origin.toNat ++ ": " ++ fault.message
    (loggedLines events).filter isFaultLine = [told] ∧
      (loggedLines events).getLast? = some told := by
  intro told
  have tells : isFaultLine told = true := isFaultLine_faulted tick origin fault
  have last : loggedLines [.faulted tick origin fault] = [told] :=
    List.filterMap_cons_some (if_pos writable)
  have listed : loggedLines events = loggedLines earlier ++ [told] := by
    rw [reported, ← last]
    exact List.filterMap_append
  rw [listed]
  constructor
  · rw [List.filter_append, faultless.filter_isFaultLine, List.filter_cons, tells]
    rfl
  · exact List.getLast?_concat

theorem Faultless.lines_of_wide (wide : ¬ IsWritable tick) :
    (loggedLines events).filter isFaultLine = [] := by
  have last : loggedLines [.faulted tick origin fault] = [] :=
    List.filterMap_cons_none (if_neg wide)
  have listed : loggedLines events = loggedLines earlier := by
    rw [reported, ← List.append_nil (loggedLines earlier), ← last]
    exact List.filterMap_append
  rw [listed]
  exact faultless.filter_isFaultLine

end Faulted

namespace Machine

/-- The line of an event, if it is a trace, is that of its snapshot. -/
theorem filter_isTraceLine_line? {event : Event}
    (writable : ∀ snapshot, event = .stepped snapshot → IsWritable snapshot.tick) :
    event.line?.filter isTraceLine = event.snapshot?.map Snapshot.line := by
  have known : isTraceLine event.message = event.isTrace := event.isPrefixOf_message
  rw [Event.line?]
  cases event with
  | stepped snapshot =>
    have writable_here : IsWritable (Event.stepped snapshot).number := writable snapshot rfl
    rw [if_pos writable_here, Option.filter_some, known]
    rfl
  | _ =>
    split
    · rw [Option.filter_some, known]
      rfl
    · rfl

/-- Where all ticks of snapshots can be written, the traces in a log are theirs. -/
theorem filter_isTraceLine {events : List Event}
    (writable : ∀ snapshot ∈ snapshotsOf events, IsWritable snapshot.tick) :
    (loggedLines events).filter isTraceLine = (snapshotsOf events).map Snapshot.line := by
  rw [loggedLines, snapshotsOf, List.filter_filterMap, List.map_filterMap]
  apply List.filterMap_congr
  intro event reported
  apply filter_isTraceLine_line?
  rintro snapshot rfl
  exact writable snapshot (mem_snapshotsOf.mpr reported)

/-! ## Turns -/

variable {machine : Machine} {status : Status} {ratio : Int}

theorem asides_tickTimers (machine : Machine) :
    ∀ event ∈ machine.tickTimers.events, event.IsAside := by
  show ∀ event ∈ (if machine.sound = 1 then [.soundExpired] else []), Event.IsAside event
  split
  · exact List.forall_mem_singleton.mpr ⟨rfl, rfl⟩
  · exact List.forall_mem_nil _

theorem exists_reports_turnCalls (machine : Machine) (ratio : Int) :
    ∃ asides, machine.reports (machine.turnCalls ratio) = machine.step.events ++ asides ∧
      ∀ event ∈ asides, event.IsAside := by
  by_cases due : machine.step.machine.tick % ratio = 0
  · exact ⟨_, reports_turnCalls_of_due machine due, asides_tickTimers _⟩
  · refine ⟨[], ?_, List.forall_mem_nil _⟩
    rw [reports_turnCalls_of_not_due machine due, List.append_nil]

theorem isAside_ending {origin : Word} {answer : RunEnd × Event}
    (ended : machine.ending? origin status = some answer) : answer.2.IsAside := by
  rw [ending?] at ended
  split_ifs at ended
  · cases ended
    exact ⟨rfl, rfl⟩
  · cases ended
    exact ⟨rfl, rfl⟩

/-- Beside its step a turn tells only of timers and of the end of the run. -/
theorem exists_events_turn (went : machine.step.result = .ok status) (ratio : Int) :
    ∃ asides, (machine.turn ratio).events = machine.step.events ++ asides ∧
      ∀ event ∈ asides, event.IsAside := by
  by_cases zero : ratio = 0
  · subst zero
    rw [turn_of_zero_ratio went]
    exact ⟨[], (List.append_nil _).symm, List.forall_mem_nil _⟩
  · obtain ⟨asides, reported, all⟩ := exists_reports_turnCalls machine ratio
    rw [turn_of_ok zero went, reported]
    cases ended : (machine.turned ratio).ending? machine.counter status with
    | none => exact ⟨asides, rfl, all⟩
    | some answer =>
      refine ⟨asides ++ [answer.2], List.append_assoc _ _ _, ?_⟩
      exact List.forall_mem_append.mpr
        ⟨all, List.forall_mem_singleton.mpr (isAside_ending ended)⟩

theorem faultless_exec (operation : Operation) (word : Word) (machine : Machine) :
    Faultless (exec operation word machine).events := by
  intro event reported
  have ofOperation := ofOperation_exec machine word event reported
  cases event with
  | faulted | runFaulted => exact ofOperation.elim
  | _ => rfl

theorem faultless_step_of_ok (went : machine.step.result = .ok status) :
    Faultless machine.step.events := by
  obtain ⟨operation, next⟩ := exists_next went
  rw [events_step_of_ok next went]
  refine (faultless_exec operation machine.nextWord machine.movedOn).append ?_
  rw [stepReport]
  split
  · exact List.forall_mem_nil _
  · exact List.forall_mem_singleton.mpr rfl

theorem Unreported.faultless_step (unreported : machine.Unreported) :
    Faultless machine.step.events := by
  obtain ⟨operation, told⟩ := unreported.exists_events_step
  rw [told]
  exact faultless_exec operation machine.nextWord machine.movedOn

theorem isWritable_of_ok (loud : machine.settings.quiet = false)
    (went : machine.step.result = .ok status) : IsWritable (machine.tick + 1) := by
  rcases reportable_of_ok went with quiet | writable
  · cases loud.symm.trans quiet
  · exact writable

theorem snapshotsOf_turn (loud : machine.settings.quiet = false)
    (went : machine.step.result = .ok status) (ratio : Int) :
    ∃ snapshot, machine.Traces snapshot ∧ snapshotsOf (machine.turn ratio).events = [snapshot] := by
  obtain ⟨snapshot, traces, only⟩ := exists_traces went
  obtain ⟨asides, reported, all⟩ := exists_events_turn went ratio
  refine ⟨snapshot, traces, ?_⟩
  rw [reported, snapshotsOf_append, only, snapshotsOf_of_asides all, loud]
  rfl

theorem faultless_turn (went : machine.step.result = .ok status) (ratio : Int) :
    Faultless (machine.turn ratio).events := by
  obtain ⟨asides, reported, all⟩ := exists_events_turn went ratio
  rw [reported]
  exact (faultless_step_of_ok went).append (faultless_of_asides all)

theorem tick_turn_of_ok (went : machine.step.result = .ok status) (ratio : Int) :
    (machine.turn ratio).machine.tick = machine.tick + 1 := by
  rw [← tick_step_of_ok went]
  rcases machine_turn ratio machine with same | ticked
  · rw [same]
  · rw [ticked]
    rfl

/-- After a step that goes through, a turn can only fail for the ratio. -/
theorem eq_zeroTimerRatio_of_turn_error (went : machine.step.result = .ok status) {fault : Fault}
    (failed : (machine.turn ratio).result = .error fault) : fault = .zeroTimerRatio := by
  by_cases zero : ratio = 0
  · subst zero
    rw [turn_of_zero_ratio went] at failed
    cases failed
    rfl
  · rw [result_turn_of_ok zero went] at failed
    cases failed

/-! ## Runs -/

/-- The outcome of a run from a machine is traced: each step that went through by its snapshot, in
order, and a step that met a fault of the machine by that fault, at the end. -/
structure Traced (ratio : Int) (machine : Machine) (outcome : Outcome RunEnd) : Prop where
  tick : outcome.machine.tick =
    machine.tick + (snapshotsOf outcome.events).length + unreportedSteps outcome.result
  traces : ∀ turn snapshot, (snapshotsOf outcome.events)[turn]? = some snapshot →
    (course ratio machine turn).Traces snapshot ∧ snapshot.tick = machine.tick + turn + 1 ∧
      IsWritable snapshot.tick
  faultless : (∀ fault, outcome.result = .error fault → fault.isMachineFault = false) →
    Faultless outcome.events
  unreported : ∀ tick, outcome.result = .error (.unwritable tick) →
    (course ratio machine (snapshotsOf outcome.events).length).Unreported ∧
      tick = outcome.machine.tick ∧ ¬ IsWritable tick
  fault : ∀ fault, outcome.result = .error fault → fault.isMachineFault = true →
    let stopped := course ratio machine (snapshotsOf outcome.events).length
    stopped.step.result = .error fault ∧
      ∃ earlier, Faultless earlier ∧
        outcome.events = earlier ++ [.faulted outcome.machine.tick stopped.counter fault]

/-- Nothing was done and nothing that counts was reported. -/
theorem traced_of_asides {ending : RunEnd} {events : List Event}
    (asides : ∀ event ∈ events, event.IsAside) :
    Traced ratio machine ⟨.ok ending, machine, events⟩ := by
  have silent := snapshotsOf_of_asides asides
  refine ⟨?_, ?_, fun _ => faultless_of_asides asides, nofun, nofun⟩
  · simp [silent]
  · intro turn snapshot found
    rw [silent] at found
    cases found

theorem traced_of_step_error {fault : Fault} (failed : machine.step.result = .error fault) :
    Traced ratio machine ⟨.error fault, machine.step.machine, machine.step.events⟩ := by
  have silent := snapshotsOf_step_of_error failed
  refine ⟨?_, ?_, ?_, ?_, ?_⟩
  · rw [silent, tick_step_of_error failed, List.length_nil, Int.natCast_zero, Int.add_zero]
  · intro turn snapshot found
    rw [silent] at found
    cases found
  · exact fun other => (unreported_of_error failed (other fault rfl)).1.faultless_step
  · rintro tick ⟨⟩
    rw [silent]
    obtain ⟨unreported, told⟩ := unreported_of_error failed rfl
    cases told
    exact ⟨unreported, unreported.tick_step.symm, fun writable => unreported.silent (.inr writable)⟩
  · rintro _ ⟨⟩ machineFault
    rw [silent, tick_step_of_machineFault failed machineFault,
      events_step_of_machineFault failed machineFault]
    exact ⟨failed, [], List.forall_mem_nil _, rfl⟩

/-- A turn whose step went through is traced, if it ends the run. -/
theorem traced_of_turn_ended (loud : machine.settings.quiet = false)
    (went : machine.step.result = .ok status) {result : Except Fault RunEnd}
    (ended : ∀ fault, result = .error fault → fault = .zeroTimerRatio) :
    Traced ratio machine ⟨result, (machine.turn ratio).machine, (machine.turn ratio).events⟩ := by
  obtain ⟨trace, traces, only⟩ := snapshotsOf_turn loud went ratio
  have told : ∀ value, result ≠ .error (.unwritable value) := by
    intro value failed
    cases ended _ failed
  refine ⟨?_, ?_, fun _ => faultless_turn went ratio,
    fun value failed => absurd failed (told value), ?_⟩
  · rw [only, tick_turn_of_ok went ratio, unreportedSteps_of_told told]
    simp
  · intro turn snapshot found
    rw [only] at found
    cases turn with
    | zero =>
      cases found
      rw [traces.tick]
      exact ⟨traces, by omega, isWritable_of_ok loud went⟩
    | succ turn => cases found
  · intro fault failed machineFault
    cases ended fault failed
    cases machineFault

/-- A turn that goes on is traced in front of the rest. -/
theorem Traced.cons (loud : machine.settings.quiet = false)
    (went : machine.step.result = .ok status)
    (on : (machine.turn ratio).machine = machine.turned ratio) {rest : Outcome RunEnd}
    (traced : Traced ratio (machine.turned ratio) rest) :
    Traced ratio machine { rest with events := (machine.turn ratio).events ++ rest.events } := by
  obtain ⟨trace, traces, only⟩ := snapshotsOf_turn loud went ratio
  have counted : (machine.turned ratio).tick = machine.tick + 1 :=
    (congrArg Machine.tick on).symm.trans (tick_turn_of_ok went ratio)
  have first := faultless_turn went ratio
  have shown : snapshotsOf ((machine.turn ratio).events ++ rest.events) =
      trace :: snapshotsOf rest.events := by
    rw [snapshotsOf_append, only]
    rfl
  refine ⟨?_, ?_, fun other => first.append (traced.faultless other), ?_, ?_⟩
  · have later := traced.tick
    simp only [shown, List.length_cons]
    omega
  · intro turn snapshot found
    simp only [shown] at found
    cases turn with
    | zero =>
      cases found
      rw [traces.tick]
      exact ⟨traces, by omega, isWritable_of_ok loud went⟩
    | succ turn =>
      obtain ⟨later, at_tick, writable⟩ := traced.traces turn snapshot found
      exact ⟨later, by omega, writable⟩
  · intro tick failed
    simp only [shown, List.length_cons]
    exact traced.unreported tick failed
  · intro fault failed machineFault
    obtain ⟨stopped, earlier, faultless, reported⟩ := traced.fault fault failed machineFault
    simp only [shown, List.length_cons]
    refine ⟨stopped, (machine.turn ratio).events ++ earlier, first.append faultless, ?_⟩
    rw [List.append_assoc]
    exact congrArg ((machine.turn ratio).events ++ ·) reported

/-- The lines of the trace are those of the snapshots. -/
theorem Traced.traceLines_eq {outcome : Outcome RunEnd} (traced : Traced ratio machine outcome) :
    (loggedLines outcome.events).filter isTraceLine =
      (snapshotsOf outcome.events).map Snapshot.line := by
  apply filter_isTraceLine
  intro snapshot shown
  obtain ⟨turn, found⟩ := List.mem_iff_getElem?.mp shown
  exact (traced.traces turn snapshot found).2.2

/-- Only the first step of a run can fail at a tick that cannot be written: the snapshot of a step
before it would show this tick. -/
theorem Traced.snapshotsOf_of_wide {outcome : Outcome RunEnd} {fault : Fault}
    (traced : Traced ratio machine outcome) (failed : outcome.result = .error fault)
    (machineFault : fault.isMachineFault = true) (wide : ¬ IsWritable outcome.machine.tick) :
    snapshotsOf outcome.events = [] := by
  by_contra some_step
  have positive := List.length_pos_iff.mpr some_step
  obtain ⟨snapshot, found⟩ : ∃ snapshot,
      (snapshotsOf outcome.events)[(snapshotsOf outcome.events).length - 1]? = some snapshot :=
    ⟨_, List.getElem?_eq_getElem (by omega)⟩
  obtain ⟨_, at_tick, written⟩ := traced.traces _ snapshot found
  have ticks := traced.tick
  rw [failed, unreportedSteps_of_machineFault machineFault] at ticks
  have same : outcome.machine.tick = snapshot.tick := by omega
  exact wide (same ▸ written)

theorem traced_run (limit : Int) (pace : Pace) (loud : machine.settings.quiet = false) :
    Traced pace.stepsPerTimerTick machine (machine.run limit pace) := by
  induction machine using run_induction limit pace with
  | reached machine reached =>
    rw [run_of_limit_le reached]
    exact traced_of_asides (List.forall_mem_nil _)
  | pauses machine below here =>
    rw [run_of_pause below here]
    exact traced_of_asides (List.forall_mem_singleton.mpr ⟨rfl, rfl⟩)
  | ends machine begins ended =>
    cases stepped : machine.step.result with
    | error fault =>
      rw [run_of_error begins stepped]
      exact traced_of_step_error stepped
    | ok status =>
      cases result : (machine.turn pace.stepsPerTimerTick).result with
      | error fault =>
        rw [run_of_turn_error begins result]
        refine traced_of_turn_ended loud stepped ?_
        rintro _ ⟨⟩
        exact eq_zeroTimerRatio_of_turn_error stepped result
      | ok ending =>
        cases ending with
        | none => exact absurd result ended
        | some ending =>
          rw [run_of_turn_ended begins result]
          exact traced_of_turn_ended loud stepped nofun
  | goesOn machine begins on ih =>
    cases stepped : machine.step.result with
    | error fault =>
      rw [turn_of_error stepped] at on
      cases on
    | ok status =>
      have nonzero : pace.stepsPerTimerTick ≠ 0 := by
        intro zero
        rw [zero, turn_of_zero_ratio stepped] at on
        cases on
      have left := machine_turn_of_ok nonzero stepped
      rw [run_of_turn_on begins on]
      rw [left] at ih ⊢
      exact (ih (settings_turned machine _ ▸ loud)).cons loud stepped left

/-! ## The log of a run -/

/-- The line of a trace shows the machine and the instruction of its step. -/
theorem Traces.line_eq {snapshot : Snapshot} (traces : machine.Traces snapshot) :
    let after := machine.step.machine
    snapshot.line = "TICK: " ++ Numeral.decimal 5 after.tick ++
      " PC: " ++ Numeral.hex 3 machine.counter.toNat ++
      " I: " ++ Numeral.hex 3 after.index.toNat ++
      " SP: " ++ Numeral.decimal 2 after.stack.depth ++
      " DT: " ++ Numeral.decimal 3 after.delay.toNat ++
      " ST: " ++ Numeral.decimal 3 after.sound.toNat ++
      " V: " ++ " ".intercalate (after.registers.toList.map fun byte =>
        Numeral.hex 2 byte.toNat) ++
      " STATE: " ++ Numeral.padRight 8 snapshot.status.name ++
      "\tINSTR: " ++ mnemonic snapshot.operation snapshot.word := by
  intro after
  have ticks : after.tick = snapshot.tick := (tick_step_of_ok traces.went).trans traces.tick.symm
  rw [ticks, ← traces.origin, ← traces.index, ← traces.depth, ← traces.delay, ← traces.sound,
    ← traces.registers]
  rfl

/-- A machine that is not quiet logs of every run, to any limit and at any pace, one line of the
trace for each step that goes through, in order, the ticks counting on by one. Each shows the
address and the word that the step fetched and the operation that it did, and the machine as the
step left it, before any timer period.

A run may end at a step that has no line because its tick has too many digits to be written: this
step is done and counted all the same. If the run ends in a fault of the machine, a line with the
tick and the address of the step that failed comes last. Only at a tick that cannot be written there
is no such line, and then the first step of the run has failed. No other line tells of a fault. -/
theorem trace_complete_and_faithful (loud : machine.settings.quiet = false) (limit : Int)
    (pace : Pace) :
    let before := course pace.stepsPerTimerTick machine
    let outcome := machine.run limit pace
    let lines := loggedLines outcome.events
    let traces := lines.filter isTraceLine
    outcome.machine.tick = machine.tick + traces.length + unreportedSteps outcome.result ∧
    (pace.stepsPerTimerTick ≠ 0 →
      Loop limit pace machine traces.length outcome.result outcome.machine) ∧
    (∀ turn < traces.length, ∃ word operation status,
      let stepping := before turn
      let after := stepping.step.machine
      stepping.memory.fetch stepping.counter.toNat = .ok word ∧ decode word = some operation ∧
      stepping.step.result = .ok status ∧ after.tick = machine.tick + turn + 1 ∧
      traces[turn]? = some ("TICK: " ++ Numeral.decimal 5 after.tick ++
        " PC: " ++ Numeral.hex 3 stepping.counter.toNat ++
        " I: " ++ Numeral.hex 3 after.index.toNat ++
        " SP: " ++ Numeral.decimal 2 after.stack.depth ++
        " DT: " ++ Numeral.decimal 3 after.delay.toNat ++
        " ST: " ++ Numeral.decimal 3 after.sound.toNat ++
        " V: " ++ " ".intercalate (after.registers.toList.map fun byte =>
          Numeral.hex 2 byte.toNat) ++
        " STATE: " ++ Numeral.padRight 8 status.name ++
        "\tINSTR: " ++ mnemonic operation word)) ∧
    ((∀ fault, outcome.result = .error fault → fault.isMachineFault = false) →
      lines.filter isFaultLine = []) ∧
    (∀ tick, outcome.result = .error (.unwritable tick) →
      (before traces.length).Unreported ∧ tick = outcome.machine.tick ∧ ¬ IsWritable tick) ∧
    ∀ fault, outcome.result = .error fault → fault.isMachineFault = true →
      let stopped := before traces.length
      let told := "[tick " ++ Numeral.decimal 1 outcome.machine.tick ++ "] fault at PC " ++
        Numeral.hex 3 stopped.counter.toNat ++ ": " ++ fault.message
      stopped.step.result = .error fault ∧
      (IsWritable outcome.machine.tick →
        lines.filter isFaultLine = [told] ∧ lines.getLast? = some told) ∧
      (¬ IsWritable outcome.machine.tick →
        lines.filter isFaultLine = [] ∧ traces = []) := by
  intro before outcome lines traces
  have traced : Traced pace.stepsPerTimerTick machine outcome := traced_run limit pace loud
  have shows : traces = (snapshotsOf outcome.events).map Snapshot.line := traced.traceLines_eq
  have counts : traces.length = (snapshotsOf outcome.events).length := by
    rw [shows, List.length_map]
  rw [counts]
  refine ⟨traced.tick, ?_, ?_, fun other => (traced.faultless other).filter_isFaultLine,
    traced.unreported, ?_⟩
  · intro nonzero
    obtain ⟨steps, loop⟩ := loop_run limit pace nonzero machine
    have counted : outcome.machine.tick = machine.tick + steps + unreportedSteps outcome.result :=
      loop.tick
    have ticks := traced.tick
    have same : (snapshotsOf outcome.events).length = steps := by omega
    rw [same]
    exact loop
  · intro turn less
    obtain ⟨snapshot, found⟩ : ∃ snapshot, (snapshotsOf outcome.events)[turn]? = some snapshot :=
      ⟨_, List.getElem?_eq_getElem less⟩
    obtain ⟨shown, at_tick, _⟩ := traced.traces turn snapshot found
    have after_tick : (before turn).step.machine.tick = snapshot.tick :=
      (tick_step_of_ok shown.went).trans shown.tick.symm
    refine ⟨snapshot.word, snapshot.operation, snapshot.status, shown.fetched, shown.decoded,
      shown.went, after_tick.trans at_tick, ?_⟩
    rw [shows, List.getElem?_map, found]
    exact congrArg some shown.line_eq
  · intro fault failed machineFault stopped told
    obtain ⟨stops, earlier, faultless, reported⟩ := traced.fault fault failed machineFault
    refine ⟨stops, faultless.lines_of_writable reported, fun wide => ?_⟩
    refine ⟨faultless.lines_of_wide reported wide, ?_⟩
    rw [shows, traced.snapshotsOf_of_wide failed machineFault wide]
    rfl

/-- A return without a call, after one step. -/
theorem trace_complete_and_faithful_at_lone_ret :
    let machine := bare [0x60, 0x01, 0x00, 0xEE]
    let lines := loggedLines (machine.run 9 {}).events
    machine.settings.quiet = false ∧ (lines.filter isTraceLine).length = 1 ∧
      lines.getLast? = some "[tick 1] fault at PC 202: return with empty stack" := by
  intro machine lines
  have loud : machine.settings.quiet = false := by decide +kernel
  have failed : (machine.run 9 {}).result = .error .stackEmpty := by decide +kernel
  have ticks : (machine.run 9 {}).machine.tick = machine.tick + 1 := by decide +kernel
  obtain ⟨counted, _, _, _, _, faults⟩ := trace_complete_and_faithful loud 9 {}
  have one : (lines.filter isTraceLine).length = 1 := by
    have none_untold : unreportedSteps (machine.run 9 {}).result = 0 := by
      rw [failed, unreportedSteps_of_machineFault rfl]
    have shown : (machine.run 9 {}).machine.tick = machine.tick +
        (lines.filter isTraceLine).length + unreportedSteps (machine.run 9 {}).result := counted
    omega
  obtain ⟨_, told, _⟩ := faults .stackEmpty failed rfl
  refine ⟨loud, one, ?_⟩
  rw [(told (by rw [ticks]; decide)).2, ticks, one]
  decide +kernel

/-- At the widest tick a jump to itself is done, counted and not told: there is no line for it, and
the run does not end in a fault of the machine. -/
theorem run_leaves_step_untold_at_widest_tick :
    let machine : Machine := { bare [0x12, 0x00] with tick := widest }
    let outcome := machine.run (widest + 1) {}
    machine.settings.quiet = false ∧ outcome.machine.tick = machine.tick + 1 ∧
      (loggedLines outcome.events).filter isTraceLine = [] ∧
      ∀ fault, outcome.result = .error fault → fault.isMachineFault = false := by
  intro machine outcome
  have unreported : machine.Unreported := by
    have silent := not_reportable_of_widest machine rfl rfl
    exact ⟨silent, .jump, .running, ⟨by decide +kernel, by decide +kernel⟩, rfl⟩
  have begins : machine.Begins (widest + 1) {} := ⟨Int.lt_succ widest, nofun⟩
  have failed : machine.step.result = .error (.unwritable (widest + 1)) := unreported.result_step
  have ran : outcome = ⟨_, machine.step.machine, machine.step.events⟩ := run_of_error begins failed
  rw [ran]
  refine ⟨rfl, unreported.tick_step, ?_, ?_⟩
  · have silent := snapshotsOf_step_of_error failed
    have writable : ∀ snapshot ∈ snapshotsOf machine.step.events, IsWritable snapshot.tick := by
      rw [silent]
      nofun
    rw [filter_isTraceLine writable, silent]
    rfl
  · rintro _ ⟨⟩
    rfl

end Machine

end Chip8
