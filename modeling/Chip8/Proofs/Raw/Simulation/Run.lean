/-
# Steps, runs and commands on integers

A step of a raw machine is a step of the machine written out, and from that the
same follows for a run and for every command. So commands one after another lead a
raw machine exactly where they lead the machine: a raw machine that is once a
machine written out stays one for ever.
-/

import Chip8.Proofs.Machine.WellFormed
import Chip8.Proofs.Raw.Simulation.Exec

namespace Chip8

open RawMachine

variable (machine : Machine)

/-! ## Steps -/

theorem toRaw_movedOn :
    machine.movedOn.toRaw =
      { machine.toRaw with counter := (machine.toRaw.counter + 2) % 65536 } := by
  have counter := cut_advance machine.counter
  simp only [Machine.movedOn, Machine.toRaw, counter]

theorem run_moveOn :
    (RawMachine.jump ((machine.counter.toNat + 2) % 65536)).run machine.toRaw =
      .ok () machine.movedOn.toRaw := by
  rw [toRaw_movedOn]
  rfl

theorem run_report :
    report.run machine.toRaw =
      if machine.CanReport then .ok () machine.toRaw
      else .error (.refused (.unwritable machine.tick)) machine.toRaw := by
  simp only [report, EStateM.run_bind, EStateM.run_get]
  exact apply_ite (EStateM.run · machine.toRaw) machine.CanReport (pure ())
    (fail (.refused (.unwritable machine.tick)))

/-- After its operation a step is noted, counted and reported. -/
theorem run_conclude (origin : Word) (status : Status) (operation : Operation) (word : Word)
    (events : List Event) :
    (do modify fun raw : RawMachine => { raw with last := some operation }
        modify fun raw : RawMachine => { raw with tick := raw.tick + 1 }
        report
        return status : RawAction Status).run machine.toRaw =
      (machine.conclude origin status operation word events).toRaw id := by
  have counted : { machine.toRaw with tick := machine.toRaw.tick + 1, last := some operation } =
      (machine.advance operation).toRaw := rfl
  simp only [EStateM.run_bind, EStateM.run_modify, counted, run_report, Machine.conclude]
  by_cases told : (machine.advance operation).CanReport
  · rw [if_pos told, if_pos told]
    rfl
  · rw [if_neg told, if_neg told]
    rfl

theorem run_step (bounded : machine.stack.depth ≤ 16) :
    RawMachine.step.run machine.toRaw = machine.step.toRaw id := by
  have fetched := run_fetchWord machine machine.counter.toNat
  simp only [RawMachine.step, EStateM.run_bind, EStateM.run_get]
  rw [show machine.toRaw.counter = machine.counter.toNat from rfl, fetched, Machine.step]
  cases machine.memory.fetch machine.counter.toNat with
  | error fault => rfl
  | ok word =>
    simp only [Outcome.toRaw_ok, Word.ofInt_toNat]
    cases decode word with
    | none => rfl
    | some operation =>
      have done := run_exec machine.movedOn bounded operation.code.toNat word
      rw [Machine.execCode, Operation.ofCode?_code] at done
      simp only [EStateM.run_bind, run_moveOn, done]
      unfold Machine.movedOn
      rcases Machine.exec operation word { machine with counter := machine.counter + 2 } with
        ⟨fault | status, left, events⟩
      · rfl
      · exact run_conclude left machine.counter status operation word events

/-! ## Runs -/

/-- Both remainders are zero at the multiples of the divisor. -/
theorem fmod_eq_zero_iff (value divisor : Int) : value.fmod divisor = 0 ↔ value % divisor = 0 := by
  rw [← Int.dvd_iff_fmod_eq_zero, ← Int.dvd_iff_emod_eq_zero]

theorem ending?_toRaw (origin : Word) (status : Status) :
    machine.toRaw.ending? origin.toNat status = (machine.ending? origin status).map Prod.fst := by
  have origins : machine.toRaw.counter = origin.toNat ↔ machine.counter = origin := by
    rw [← UInt16.toNat_inj]
    exact Int.ofNat_inj
  simp only [RawMachine.ending?, Machine.ending?, origins]
  rw [show machine.toRaw.last = machine.last from rfl]
  split
  · rfl
  · split
    · rfl
    · rfl

/-- The end of a turn reports more than it answers. -/
theorem toRaw_ending (origin : Word) (status : Status) (events : List Event) :
    Outcome.toRaw id
        (match machine.ending? origin status with
        | some (ending, event) => ⟨.ok (some ending), machine, events ++ [event]⟩
        | none => ⟨.ok none, machine, events⟩) =
      .ok (machine.toRaw.ending? origin.toNat status) machine.toRaw := by
  rw [ending?_toRaw]
  cases machine.ending? origin status with
  | none => rfl
  | some ended => rfl

theorem run_turn (bounded : machine.stack.depth ≤ 16) (ratio : Int) :
    (RawMachine.turn ratio).run machine.toRaw = (machine.turn ratio).toRaw id := by
  simp only [RawMachine.turn, Machine.turn, Machine.tickTimersEvery, EStateM.run_bind,
    EStateM.run_get, run_step machine bounded]
  rw [show machine.toRaw.counter = machine.counter.toNat from rfl]
  rcases machine.step with ⟨fault | status, stepped, events⟩
  · rfl
  · by_cases zero : ratio = 0
    · simp only [zero, Outcome.toRaw_ok, ↓reduceIte]
      rfl
    · have same := fmod_eq_zero_iff stepped.tick ratio
      have tick : stepped.toRaw.tick = stepped.tick := rfl
      by_cases due : stepped.tick % ratio = 0
      · have ticked : RawMachine.tickTimers.run stepped.toRaw =
            .ok () stepped.tickTimers.machine.toRaw := run_tickTimers stepped
        have answer : stepped.tickTimers =
            ⟨.ok (), stepped.tickTimers.machine, stepped.tickTimers.events⟩ := rfl
        simp only [Outcome.toRaw_ok, zero, tick, same, due, ticked, ↓reduceIte, EStateM.run_bind,
          EStateM.run_get, EStateM.run_pure, id_eq]
        rw [answer]
        exact (toRaw_ending stepped.tickTimers.machine machine.counter status _).symm
      · simp only [Outcome.toRaw_ok, zero, tick, same, due, ↓reduceIte, EStateM.run_bind,
          EStateM.run_get, EStateM.run_pure, id_eq]
        exact (toRaw_ending stepped machine.counter status _).symm

/-- There are as many turns as ticks to go, so on both sides the run ends with them. -/
theorem run_runWhile (limit : Int) (pace : Pace) (turns : Nat) (log : List Event)
    {machine : Machine} (bounded : machine.stack.depth ≤ 16)
    (enough : turns = (limit - machine.tick).toNat) :
    (RawMachine.runWhile limit pace turns).run machine.toRaw =
      (Machine.runFor pace turns log machine).toRaw id := by
  induction turns generalizing log machine with
  | zero => rfl
  | succ turns ih =>
    have going : machine.toRaw.tick < limit := by
      show machine.tick < limit
      omega
    have turned := run_turn machine bounded pace.stepsPerTimerTick
    have deep := Machine.turn_preserves (fun machine => machine.stack.depth ≤ 16)
      Machine.depth_step (fun _ kept => kept) pace.stepsPerTimerTick bounded
    simp only [RawMachine.runWhile, Machine.runFor, EStateM.run_bind, EStateM.run_get, going,
      ↓reduceIte]
    rw [show machine.toRaw.tick = machine.tick from rfl]
    split
    · rfl
    · simp only [EStateM.run_bind, turned]
      rcases answered : machine.turn pace.stepsPerTimerTick with
        ⟨fault | ⟨⟩ | ending, left, events⟩
      · rfl
      · -- the turn has raised the tick, so one turn less is still enough
        have later := Machine.tick_turn (congrArg Outcome.result answered)
        rw [answered] at deep later
        exact ih _ deep (by omega)
      · rfl

theorem run_run (bounded : machine.stack.depth ≤ 16) (limit : Int) (pace : Pace) :
    (RawMachine.run limit pace).run machine.toRaw = (machine.run limit pace).toRaw id :=
  run_runWhile limit pace _ [] bounded rfl

/-! ## Commands -/

section Answers

variable {α : Type} {outcome : Outcome α} {raw : RawMachine} {reply : α → Reply}

theorem toRaw_map {β γ : Type} (outcome : Outcome α) (f : α → β) (written : β → γ) :
    (outcome.map f).toRaw written = outcome.toRaw fun answer => written (f answer) := by
  rcases outcome with ⟨fault | answer, left, events⟩
  · rfl
  · rfl

theorem run_silent {action : RawAction Unit} {written : α → Unit}
    (same : action.run raw = outcome.toRaw written) :
    action.run raw = (outcome.map reply).toRaw fun _ => () := by
  rw [toRaw_map]
  exact same

/-- What a command answers besides a fault is left aside on both sides. -/
theorem run_discard {β : Type} {action : RawAction β} {written : α → β}
    (same : action.run raw = outcome.toRaw written) :
    (discard action : RawAction Unit).run raw = (outcome.map reply).toRaw fun _ => () := by
  show (action >>= fun _ => pure ()).run raw = _
  rw [EStateM.run_bind, same, toRaw_map]
  rcases outcome with ⟨fault | answer, left, events⟩
  · rfl
  · rfl

end Answers

theorem run_obey (wellFormed : machine.WellFormed) (command : Command) :
    (RawMachine.obey command).run machine.toRaw =
      (machine.perform command).toRaw fun _ => () := by
  have bounded := wellFormed.depth_le
  cases command with
  | step => exact run_discard (run_step machine bounded)
  | run limit pace => exact run_discard (run_run machine bounded limit pace)
  | exec code word => exact run_discard (run_exec machine bounded code word)
  | tickTimers => exact run_silent (run_tickTimers machine)
  | setKey key pressed => exact run_silent (run_setKey machine key pressed)
  | load program => exact run_silent (run_load machine program)
  | reset => exact run_reset machine wellFormed.program_le rfl rfl rfl rfl rfl
  | readByte address => exact run_discard (run_readByte machine address)
  | writeByte address value => exact run_writeByte machine address value
  | readBlock address length => exact run_discard (run_readBlock machine address length)
  | writeBlock address values => exact run_writeBlock machine address values
  | fetchWord address => exact run_discard (run_fetchWord machine address)
  | push value => exact run_silent (run_push machine value)
  | pop => exact run_discard (run_pop machine bounded)
  | heldKey => rfl
  | soundOn => rfl
  | clearRedraw => rfl
  | render => rfl

/-- A raw machine that is a machine written out stays one under any commands. -/
theorem after_toRaw {machine : Machine} (wellFormed : machine.WellFormed)
    (commands : List Command) :
    machine.toRaw.after commands = (machine.after commands).toRaw := by
  induction commands generalizing machine with
  | nil => rfl
  | cons command rest ih =>
    have obeyed : RawMachine.left ((obey command).run machine.toRaw) =
        (machine.perform command).machine.toRaw := by
      rw [run_obey machine wellFormed]
      rcases machine.perform command with ⟨fault | reply, left, events⟩
      · rfl
      · rfl
    have later := ih (wellFormed.perform command)
    rw [← obeyed] at later
    exact later

end Chip8
