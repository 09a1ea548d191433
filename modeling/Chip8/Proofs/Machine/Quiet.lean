/-
# The quiet machine

A machine may be built to keep quiet about its steps. That is all the setting does: for every
command a quiet machine gives the same answer and comes to the same state, and it reports the
same events in the same order but for the traces of steps.

There is one exception. A machine that is not quiet has to write the tick of each step, and a
step whose tick has too many digits fails for that, where the quiet machine goes on. So the
statements are about outcomes that are told, that is, that do not fail so.

`quieted` makes an outcome quiet: it puts the setting into the machine and leaves the traces out
of the events. The statements say, layer by layer, that a quiet machine has the quieted outcome
of one that need not be quiet. The one layer at which anything happens is the step, which adds
its trace or does not; all others hand on what those below them report.
-/

import Chip8.Proofs.Machine.Reads
import Chip8.Proofs.Run.Trail
import Chip8.Proofs.Text.Event

namespace Chip8

/-- Events but for the traces of steps. -/
def untraced (events : List Event) : List Event :=
  events.filter fun event => !event.isTrace

theorem untraced_append (events more : List Event) :
    untraced (events ++ more) = untraced events ++ untraced more :=
  List.filter_append events more

/-- The outcome as a quiet machine has it. -/
def Outcome.quieted {α : Type} (outcome : Outcome α) : Outcome α :=
  ⟨outcome.result, outcome.machine.without .quiet, untraced outcome.events⟩

/-- A command that makes steps. -/
def Command.Steps : Command → Prop
  | step | run _ _ => True
  | _ => False

/-- The outcome does not fail for want of a report. -/
def Outcome.IsTold {α : Type} (outcome : Outcome α) : Prop :=
  ∀ value, outcome.result ≠ .error (.unwritable value)

namespace Machine

variable (machine : Machine)

/-! ## Operations -/

/-- Operations report no traces. -/
theorem untraced_exec (operation : Operation) (word : Word) :
    untraced (exec operation word machine).events = (exec operation word machine).events := by
  apply List.filter_eq_self.mpr
  intro event reported
  have plain := ofOperation_exec machine word event reported
  cases event with
  | stepped => exact plain.elim
  | _ => rfl

theorem exec_quieted (operation : Operation) (word : Word) :
    exec operation word (machine.without .quiet) = (exec operation word machine).quieted := by
  have unread : ¬ operation.Consults machine.registers word .quiet := by
    cases operation with
    | _ => exact id
  rw [exec_without_of_isHosted machine .quiet trivial unread, Outcome.quieted, untraced_exec]
  rfl

theorem execCode_quieted (code : Int) (word : Word) :
    (machine.without .quiet).execCode code word = (machine.execCode code word).quieted := by
  rw [execCode, execCode]
  cases Operation.ofCode? code with
  | none => rfl
  | some operation => exact exec_quieted machine operation word

/-! ## Steps -/

/-- A trace is reported unless the machine is quiet, and left out if it is. -/
theorem untraced_stepReport (origin : Word) (status : Status) (operation : Operation)
    (word : Word) : untraced (machine.stepReport origin status operation word) = [] := by
  rw [stepReport]
  split
  · rfl
  · rfl

theorem conclude_quieted (origin : Word) (status : Status) (operation : Operation) (word : Word)
    (events : List Event) (told : (machine.advance operation).CanReport) :
    (machine.without .quiet).conclude origin status operation word (untraced events) =
      (machine.conclude origin status operation word events).quieted := by
  have silent := untraced_stepReport (machine.advance operation) origin status operation word
  have quiet : ((machine.without .quiet).advance operation).CanReport := .inl rfl
  rw [conclude, if_pos quiet, conclude, if_pos told, Outcome.quieted, untraced_append, silent]
  rfl

theorem step_quieted (told : machine.step.IsTold) :
    (machine.without .quiet).step = machine.step.quieted := by
  rcases step_beginnings machine with past | ⟨inside, unknown⟩ | ⟨operation, next⟩
  · rw [step_of_past machine past, step_of_past (machine.without .quiet) past]
    rfl
  · rw [step_of_unknown machine inside unknown,
      step_of_unknown (machine.without .quiet) inside unknown]
    rfl
  · have next_too : (machine.without .quiet).Next operation := ⟨next.inside, next.decoded⟩
    have done : exec operation (machine.without .quiet).nextWord (machine.without .quiet).movedOn =
        _ := exec_quieted machine.movedOn operation machine.nextWord
    rw [step_of_next next] at told
    rw [step_of_next next, step_of_next next_too, done]
    generalize exec operation machine.nextWord machine.movedOn = outcome at told ⊢
    rcases outcome with ⟨fault | status, left, events⟩
    · rfl
    · apply conclude_quieted
      by_contra silent
      exact told _ (congrArg Outcome.result (if_neg silent))

/-! ## Turns and runs -/

theorem tickTimers_quieted :
    (machine.without .quiet).tickTimers = machine.tickTimers.quieted := by
  have silent (expired : Prop) [Decidable expired] :
      untraced (if expired then [.soundExpired] else []) =
        if expired then [.soundExpired] else [] := by
    split
    · rfl
    · rfl
  rw [tickTimers, tickTimers, Outcome.quieted, silent]
  rfl

theorem tickTimersEvery_quieted (ratio : Int) :
    (machine.without .quiet).tickTimersEvery ratio =
      (machine.tickTimersEvery ratio).quieted := by
  rw [tickTimersEvery, tickTimersEvery]
  by_cases zero : ratio = 0
  · rw [if_pos zero, if_pos zero]
    rfl
  · rw [if_neg zero, if_neg zero]
    by_cases due : machine.tick % ratio = 0
    · have due_too : (machine.without .quiet).tick % ratio = 0 := due
      rw [if_pos due, if_pos due_too]
      exact tickTimers_quieted machine
    · have early : (machine.without .quiet).tick % ratio ≠ 0 := due
      rw [if_neg due, if_neg early]
      rfl

/-- What a run reports of its end is no trace. -/
theorem untraced_ending {origin : Word} {status : Status} {answer : RunEnd × Event}
    (ended : machine.ending? origin status = some answer) :
    untraced [answer.2] = [answer.2] := by
  rw [ending?] at ended
  split_ifs at ended
  · cases ended
    rfl
  · cases ended
    rfl

theorem isTold_step_of_turn {ratio : Int} (told : (machine.turn ratio).IsTold) :
    machine.step.IsTold := by
  intro value failed
  exact told value (congrArg Outcome.result (turn_of_error failed))

theorem turn_quieted (ratio : Int) (told : (machine.turn ratio).IsTold) :
    (machine.without .quiet).turn ratio = (machine.turn ratio).quieted := by
  rw [turn, turn, step_quieted machine (isTold_step_of_turn machine told)]
  rcases machine.step with ⟨fault | status, stepped, events⟩
  · rfl
  · simp only [Outcome.quieted, tickTimersEvery_quieted]
    rcases stepped.tickTimersEvery ratio with ⟨fault | _, ticked, more⟩
    · simp only [untraced_append]
    · have ends : (ticked.without .quiet).ending? machine.counter status =
          ticked.ending? machine.counter status := rfl
      simp only [counter_without, ends]
      cases ended : ticked.ending? machine.counter status with
      | none => simp only [untraced_append]
      | some answer =>
        have reported := untraced_ending ticked ended
        simp only [untraced_append, reported]

section Run

variable {machine} {limit : Int} {pace : Pace}

theorem Begins.quieted (begins : machine.Begins limit pace) :
    (machine.without .quiet).Begins limit pace :=
  ⟨begins.below, begins.unpaused⟩

theorem isTold_turn_of_run (begins : machine.Begins limit pace)
    (told : (machine.run limit pace).IsTold) :
    (machine.turn pace.stepsPerTimerTick).IsTold := by
  intro value failed
  exact told value (congrArg Outcome.result (run_of_turn_error begins failed))

theorem run_quieted (told : (machine.run limit pace).IsTold) :
    (machine.without .quiet).run limit pace = (machine.run limit pace).quieted := by
  induction machine using run_induction limit pace with
  | reached machine reached =>
    have reached_too : limit ≤ (machine.without .quiet).tick := reached
    rw [run_of_limit_le reached, run_of_limit_le reached_too]
    rfl
  | pauses machine below here =>
    have below_too : (machine.without .quiet).tick < limit := below
    have here_too : pace.pauseTick = some (machine.without .quiet).tick := here
    rw [run_of_pause below here, run_of_pause below_too here_too]
    rfl
  | ends machine begins ended =>
    have turned := turn_quieted machine pace.stepsPerTimerTick (isTold_turn_of_run begins told)
    have answer := congrArg Outcome.result turned
    cases result : (machine.turn pace.stepsPerTimerTick).result with
    | error fault =>
      rw [run_of_turn_error begins result, run_of_turn_error begins.quieted (answer.trans result),
        turned]
      rfl
    | ok ending =>
      cases ending with
      | none => exact absurd result ended
      | some ending =>
        rw [run_of_turn_ended begins result,
          run_of_turn_ended begins.quieted (answer.trans result), turned]
        rfl
  | goesOn machine begins on ih =>
    have turned := turn_quieted machine pace.stepsPerTimerTick (isTold_turn_of_run begins told)
    rw [run_of_turn_on begins on] at told
    have on_too := (congrArg Outcome.result turned).trans on
    rw [run_of_turn_on begins on, run_of_turn_on begins.quieted on_too, turned]
    simp only [Outcome.quieted, untraced_append] at ih ⊢
    rw [ih told]

end Run

/-! ## What a host does -/

theorem map_quieted {α β : Type} (written : α → β) {quiet outcome : Outcome α}
    (same : quiet = outcome.quieted) : quiet.map written = (outcome.map written).quieted := by
  rw [same]
  rfl

theorem setKey_quieted (key : Int) (pressed : Bool) :
    (machine.without .quiet).setKey key pressed = (machine.setKey key pressed).quieted := by
  rw [setKey_without machine .quiet nofun, setKey]
  cases machine.keypad.put key pressed with
  | _ => rfl

theorem load_quieted (program : List Byte) :
    (machine.without .quiet).load program = (machine.load program).quieted := by
  rw [load_without machine .quiet nofun, load]
  split
  · rfl
  · rfl

theorem push_quieted (value : Int) :
    (machine.without .quiet).push value = (machine.push value).quieted := by
  rw [push_without, push]
  cases machine.stack.push value with
  | _ => rfl

theorem pop_quieted : (machine.without .quiet).pop = machine.pop.quieted := by
  rw [pop_without, pop]
  rcases machine.stack.pop with fault | ⟨value, stack⟩
  · rfl
  · rfl

theorem takeMemory_quieted (memory : Except Fault Memory) :
    (machine.without .quiet).takeMemory memory = (machine.takeMemory memory).quieted := by
  cases memory with
  | _ => rfl

theorem isTold_of_map {α β : Type} {written : α → β} {outcome : Outcome α}
    (told : (outcome.map written).IsTold) : outcome.IsTold := by
  intro value failed
  exact told value (congrArg (Except.map written) failed)

/-- Whatever a host commands, a quiet machine gives the same answer and reports the same but
for traces, as long as steps can be reported. -/
theorem perform_quieted (command : Command)
    (told : command.Steps → (perform command machine).IsTold) :
    perform command (machine.without .quiet) = (perform command machine).quieted := by
  cases command with
  | step => exact map_quieted Reply.status (step_quieted machine (isTold_of_map (told trivial)))
  | run limit pace =>
    exact map_quieted Reply.ended (run_quieted (isTold_of_map (told trivial)))
  | exec code word => exact map_quieted Reply.status (execCode_quieted machine code word)
  | tickTimers => exact map_quieted (fun _ => Reply.done) (tickTimers_quieted machine)
  | setKey key pressed =>
    exact map_quieted (fun _ => Reply.done) (setKey_quieted machine key pressed)
  | load program => exact map_quieted (fun _ => Reply.done) (load_quieted machine program)
  | push value => exact map_quieted (fun _ => Reply.done) (push_quieted machine value)
  | pop => exact map_quieted Reply.word (pop_quieted machine)
  | writeByte | writeBlock => exact takeMemory_quieted machine _
  | _ => rfl

end Machine

end Chip8
