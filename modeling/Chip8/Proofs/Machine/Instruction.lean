/-
# Instructions, done by a step or directly

A host can let a step find an operation at the counter, or have it done directly with the
operands of any word. What the operation makes of memory, registers and everything else it works
on is the same either way. Only where the program stands differs: a step moves the counter on
first, and afterwards counts the tick and notes the operation. A step that cannot be reported
does all this too, and only its answer is lost.

So statements about what instructions compute are made of `Does`, which covers both ways, and
are proved by way of one operation on a machine that may stand elsewhere.
-/

import Chip8.Proofs.Machine.WellFormed

namespace Chip8.Machine

/-- Obeying a command does an operation with the operands of a word. -/
inductive Does (machine : Machine) : Command → Operation → Word → Prop
  | directly (operation : Operation) (word : Word) :
    Does machine (.exec operation.code.toNat word) operation word
  | step {operation : Operation} (next : machine.Next operation) :
    Does machine .step operation machine.nextWord

/-- All but the counter, the tick and the note of the operation is as it was. -/
def Elsewhere (before after : Machine) : Prop :=
  ∃ counter tick last, after = { before with counter := counter, tick := tick, last := last }

/-- Obeying a command can be told: it is no step, or a step that can be reported. -/
def CanTell (machine : Machine) (command : Command) : Prop :=
  command = .step → machine.Reportable

/-- A command answers a status, if it can be told. A step that cannot is refused for that. -/
def Answers (machine : Machine) (command : Command) (status : Status) : Prop :=
  (machine.CanTell command ∧ (perform command machine).result = .ok (.status status)) ∨
    (¬ machine.CanTell command ∧
      (perform command machine).result = .error (.unwritable (machine.tick + 1)))

variable {machine : Machine} {command : Command} {operation : Operation} {word : Word}

theorem canTell_step_iff : machine.CanTell .step ↔ machine.Reportable :=
  ⟨fun told => told rfl, fun reportable _ => reportable⟩

theorem answers_step {status : Status} (next : machine.Next operation)
    (done : (exec operation machine.nextWord machine.movedOn).result = .ok status) :
    machine.Answers .step status := by
  have answer : (perform .step machine).result = machine.step.result.map .status := rfl
  rw [Answers, canTell_step_iff, answer, result_step_of_done next done, stepAnswer]
  by_cases reportable : machine.Reportable
  · rw [if_pos reportable]
    exact .inl ⟨reportable, rfl⟩
  · rw [if_neg reportable]
    exact .inr ⟨reportable, rfl⟩

theorem elsewhere_refl (machine : Machine) : machine.Elsewhere machine :=
  ⟨_, _, _, rfl⟩

theorem Elsewhere.trans {after last : Machine} (first : machine.Elsewhere after)
    (second : after.Elsewhere last) : machine.Elsewhere last := by
  obtain ⟨_, _, _, rfl⟩ := first
  obtain ⟨_, _, _, rfl⟩ := second
  exact ⟨_, _, _, rfl⟩

/-- An instruction is its operation on the machine, which may have been moved on before it and
may be counted as a step after it. -/
theorem Does.exists_exec (does : machine.Does command operation word) :
    ∃ start, machine.Elsewhere start ∧
      (∀ status, (exec operation word start).result = .ok status →
        machine.Answers command status) ∧
      (∀ fault, (exec operation word start).result = .error fault →
        (perform command machine).result = .error fault) ∧
      (exec operation word start).machine.Elsewhere (perform command machine).machine := by
  cases does with
  | directly =>
    have done : machine.execCode operation.code.toNat word = exec operation word machine := by
      rw [execCode, Operation.ofCode?_code]
    have answer : (perform (.exec operation.code.toNat word) machine).result =
        (exec operation word machine).result.map .status := by
      rw [← done]
      rfl
    refine ⟨machine, elsewhere_refl machine, ?_, ?_, ?_⟩
    · intro status went
      rw [went] at answer
      exact .inl ⟨nofun, answer⟩
    · intro fault failed
      rw [answer, failed]
      rfl
    · show Elsewhere _ (machine.execCode _ word).machine
      rw [done]
      exact elsewhere_refl _
  | step next =>
    refine ⟨machine.movedOn, ⟨_, _, _, rfl⟩, fun status done => answers_step next done, ?_, ?_⟩
    · intro fault failed
      have stopped := (result_step_error_iff next).mpr (.inl failed)
      exact congrArg (Except.map Reply.status) stopped
    · show Elsewhere _ machine.step.machine
      cases result : (exec operation machine.nextWord machine.movedOn).result with
      | error fault =>
        rw [step_of_stopped next result, atomic_exec _ _ fault result]
        exact elsewhere_refl _
      | ok status =>
        rw [machine_step_of_done next result]
        exact ⟨_, _, _, rfl⟩

/-- An operation that goes through wherever the machine stands leaves what it leaves here, but
for the place. -/
theorem Does.of_goOn (does : machine.Does command operation word) (left : Machine → Machine)
    (done : ∀ start, machine.Elsewhere start → exec operation word start = goOn (left start) [])
    (same : ∀ start, machine.Elsewhere start → (left machine).Elsewhere (left start)) :
    machine.Answers command .running ∧
      (left machine).Elsewhere (perform command machine).machine := by
  obtain ⟨start, stands, answer, _, leaves⟩ := does.exists_exec
  rw [done start stands] at answer leaves
  exact ⟨answer .running rfl, (same start stands).trans leaves⟩

end Chip8.Machine
