/-
# The note of the last operation

A machine notes the operation of the last step that went through. Only a run ever looks at
the note, and only after a step of its own has written it. So what was noted before makes no
difference: machines that agree in everything else answer every command alike, and agree in
everything else afterwards.

`unnoted` wipes the note. The statements say that wiping it before changes no answer, and
nothing of the machine afterwards but the note itself. A step that goes through even leaves
the same machine, because it writes a note of its own.
-/

import Chip8.Proofs.Machine.Reads
import Chip8.Proofs.Run.Turn

namespace Chip8

/-- The machine without its note. -/
def Machine.unnoted (machine : Machine) : Machine :=
  { machine with last := none }

/-- The outcome with the note of its machine wiped. -/
def Outcome.unnoted {α : Type} (outcome : Outcome α) : Outcome α :=
  { outcome with machine := outcome.machine.unnoted }

namespace Machine

variable (machine : Machine)

/-! ## Operations -/

/-- No operation looks at the note or writes it. -/
theorem exec_unnoted (operation : Operation) (word : Word) :
    exec operation word machine.unnoted = (exec operation word machine).unnoted := by
  have unread : ¬ operation.Consults machine.registers word .note := by
    cases operation with
    | _ => exact id
  exact exec_without_of_isHosted machine .note trivial unread

theorem execCode_unnoted (code : Int) (word : Word) :
    machine.unnoted.execCode code word = (machine.execCode code word).unnoted := by
  rw [execCode, execCode]
  cases Operation.ofCode? code with
  | none => rfl
  | some operation => exact exec_unnoted machine operation word

/-! ## Steps -/

section Step

variable {machine}

theorem Next.unnoted {operation : Operation} (next : machine.Next operation) :
    machine.unnoted.Next operation :=
  ⟨next.inside, next.decoded⟩

/-- A step whose operation goes through leaves its own note, whatever was noted before. -/
theorem step_unnoted_of_done {operation : Operation} (next : machine.Next operation)
    {status : Status}
    (done : (exec operation machine.nextWord machine.movedOn).result = .ok status) :
    machine.unnoted.step = machine.step := by
  have wiped : exec operation machine.unnoted.nextWord machine.unnoted.movedOn = _ :=
    exec_unnoted machine.movedOn operation machine.nextWord
  rw [step_of_next next, step_of_next next.unnoted, wiped]
  generalize exec operation machine.nextWord machine.movedOn = outcome at done
  rcases outcome with ⟨result, left, events⟩
  cases done
  rfl

theorem step_unnoted_of_ok {status : Status} (went : machine.step.result = .ok status) :
    machine.unnoted.step = machine.step := by
  obtain ⟨operation, next⟩ := exists_next went
  exact step_unnoted_of_done next ((result_step_ok_iff next).mp went).2

theorem step_unnoted : machine.unnoted.step.unnoted = machine.step.unnoted := by
  rcases step_beginnings machine with past | ⟨inside, unknown⟩ | ⟨operation, next⟩
  · rw [step_of_past machine past, step_of_past machine.unnoted past]
    rfl
  · rw [step_of_unknown machine inside unknown, step_of_unknown machine.unnoted inside unknown]
    rfl
  · cases done : (exec operation machine.nextWord machine.movedOn).result with
    | ok status => rw [step_unnoted_of_done next done]
    | error fault =>
      have wiped : exec operation machine.unnoted.nextWord machine.unnoted.movedOn = _ :=
        exec_unnoted machine.movedOn operation machine.nextWord
      have also : (exec operation machine.unnoted.nextWord machine.unnoted.movedOn).result =
          .error fault := by
        rw [wiped]
        exact done
      rw [step_of_stopped next done, step_of_stopped next.unnoted also]
      rfl

/-! ## Runs -/

theorem turn_unnoted_of_ok {status : Status} (went : machine.step.result = .ok status)
    (ratio : Int) : machine.unnoted.turn ratio = machine.turn ratio := by
  rw [turn, turn, step_unnoted_of_ok went]
  rfl

theorem run_unnoted (limit : Int) (pace : Pace) :
    (machine.unnoted.run limit pace).unnoted = (machine.run limit pace).unnoted := by
  rcases Int.lt_or_le machine.tick limit with below | reached
  · by_cases here : pace.pauseTick = some machine.tick
    · have also : machine.unnoted.run limit pace = _ := run_of_pause below here
      rw [run_of_pause below here, also]
      rfl
    · have begins : machine.Begins limit pace := ⟨below, here⟩
      have also_begins : machine.unnoted.Begins limit pace := ⟨below, here⟩
      cases result : machine.step.result with
      | error fault =>
        have same : machine.unnoted.step.unnoted = machine.step.unnoted := step_unnoted
        have failed : machine.unnoted.step.result = .error fault :=
          (congrArg Outcome.result same).trans result
        have left : machine.unnoted.step.machine.unnoted = machine.step.machine.unnoted :=
          congrArg Outcome.machine same
        have told : machine.unnoted.step.events = machine.step.events :=
          (congrArg Outcome.events same :)
        rw [run_of_error begins result, run_of_error also_begins failed, Outcome.unnoted,
          Outcome.unnoted]
        simp only [left, told]
      | ok status =>
        rw [run_of_begins begins, run_of_begins also_begins, turn_unnoted_of_ok result]
  · have also : machine.unnoted.run limit pace = _ := run_of_limit_le reached
    rw [run_of_limit_le reached, also]
    rfl

end Step

/-! ## Commands -/

theorem takeMemory_unnoted (memory : Except Fault Memory) :
    (machine.unnoted.takeMemory memory).unnoted = (machine.takeMemory memory).unnoted := by
  cases memory with
  | _ => rfl

theorem map_unnoted {α β : Type} (written : α → β) {wiped outcome : Outcome α}
    (same : wiped = outcome.unnoted) :
    (wiped.map written).unnoted = (outcome.map written).unnoted := by
  rw [same]
  rfl

/-- Whatever a host commands, it gets the same answer with and without the note. -/
theorem perform_unnoted (command : Command) :
    (perform command machine.unnoted).unnoted = (perform command machine).unnoted := by
  cases command with
  | step => exact congrArg (Outcome.map Reply.status) step_unnoted
  | run limit pace => exact congrArg (Outcome.map Reply.ended) (run_unnoted limit pace)
  | exec code word => exact map_unnoted Reply.status (execCode_unnoted machine code word)
  | setKey key pressed =>
    exact map_unnoted (fun _ => Reply.done) (setKey_without machine .note nofun key pressed)
  | load program =>
    exact map_unnoted (fun _ => Reply.done) (load_without machine .note nofun program)
  | push value => exact map_unnoted (fun _ => Reply.done) (push_without machine .note value)
  | pop => exact map_unnoted Reply.word (pop_without machine .note)
  | writeByte | writeBlock => exact takeMemory_unnoted machine _
  | _ => rfl

end Machine

end Chip8
