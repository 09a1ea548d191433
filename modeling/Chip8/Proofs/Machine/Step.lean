/-
# What a step does

A step has one of three beginnings. The counter may stand too close to the end of
memory for a word; the word there may match no row; or the step does an operation,
on a machine whose counter has moved on. Everything else about steps follows from
what operations do.

A step whose operation goes through has one obstacle left: it is reported with the
tick that it raises, and that may have too many digits to be written. `Reportable`
rules this out. Where it does not hold the step is refused, but all it did stays done.
-/

import Chip8.Machine.Step
import Chip8.Proofs.Machine.Exec
import Chip8.Proofs.Operation.Table
import Chip8.Proofs.Text.Writable

namespace Chip8.Machine

variable (machine : Machine)

/-- The two bytes at the counter as a word, the high byte first. -/
def nextWord : Word :=
  Word.ofBytes (machine.memory.byteAt machine.counter.toNat)
    (machine.memory.byteAt (machine.counter.toNat + 1))

/-- The machine with its counter behind the instruction. -/
def movedOn : Machine :=
  { machine with counter := machine.counter + 2 }

/-- The next step does an operation. -/
structure Next (operation : Operation) : Prop where
  inside : machine.counter.toNat ≤ 0xFFE
  decoded : decode machine.nextWord = some operation

instance (operation : Operation) : Decidable (machine.Next operation) :=
  decidable_of_iff
    (machine.counter.toNat ≤ 0xFFE ∧ decode machine.nextWord = some operation)
    ⟨fun both => ⟨both.1, both.2⟩, fun next => ⟨next.inside, next.decoded⟩⟩

/-- Below the end of memory the counter has room to move on. -/
theorem counter_movedOn (inside : machine.counter.toNat ≤ 0xFFE) :
    machine.movedOn.counter.toNat = machine.counter.toNat + 2 :=
  Word.toNat_add_two (Nat.lt_of_le_of_lt inside (by decide))

theorem fetch_of_le (inside : machine.counter.toNat ≤ 0xFFE) :
    machine.memory.fetch machine.counter.toNat = .ok machine.nextWord := by
  have fits : InMemory machine.counter.toNat 2 := by
    unfold InMemory
    omega
  rw [Memory.fetch, if_pos fits]
  rfl

/-- The next step can be reported once it is done. -/
def Reportable : Prop :=
  machine.settings.quiet = true ∨ IsWritable (machine.tick + 1)

instance : Decidable machine.Reportable :=
  inferInstanceAs (Decidable (_ ∨ _))

/-- What a step answers whose operation goes through with a status. -/
def stepAnswer (status : Status) : Except Fault Status :=
  if machine.Reportable then .ok status else .error (.unwritable (machine.tick + 1))

theorem not_reportable_of_widest (loud : machine.settings.quiet = false)
    (last : machine.tick = widest) : ¬ machine.Reportable := by
  rw [Reportable, loud, last]
  rintro (quiet | writable)
  · cases quiet
  · exact not_isWritable_widest_add_one writable

theorem tick_exec_movedOn (operation : Operation) :
    (exec operation machine.nextWord machine.movedOn).machine.tick = machine.tick :=
  congrArg HostPart.tick (hostPart_exec machine.movedOn machine.nextWord)

/-- Counting raises the tick by one, so what can be reported afterwards is known before. -/
theorem canReport_advance (operation : Operation) :
    ((exec operation machine.nextWord machine.movedOn).machine.advance operation).CanReport ↔
      machine.Reportable := by
  have settings :
      (exec operation machine.nextWord machine.movedOn).machine.settings = machine.settings :=
    congrArg HostPart.settings (hostPart_exec machine.movedOn machine.nextWord)
  rw [CanReport, Reportable, ← tick_exec_movedOn machine operation, ← settings]
  rfl

/-! ## The three beginnings -/

theorem step_beginnings :
    0xFFE < machine.counter.toNat ∨
      (machine.counter.toNat ≤ 0xFFE ∧ decode machine.nextWord = none) ∨
        ∃ operation, machine.Next operation := by
  rcases Nat.lt_or_ge 0xFFE machine.counter.toNat with past | inside
  · exact .inl past
  · cases decoded : decode machine.nextWord with
    | none => exact .inr (.inl ⟨inside, rfl⟩)
    | some operation => exact .inr (.inr ⟨operation, inside, decoded⟩)

theorem step_of_past (past : 0xFFE < machine.counter.toNat) :
    machine.step =
      machine.stepFault machine.tick machine.counter
        (.outsideMemory machine.counter.toNat 2) := by
  have outside : ¬ InMemory machine.counter.toNat 2 := by
    unfold InMemory
    omega
  rw [step, Memory.fetch, if_neg outside]

theorem step_of_unknown (inside : machine.counter.toNat ≤ 0xFFE)
    (unknown : decode machine.nextWord = none) :
    machine.step =
      machine.stepFault machine.tick machine.counter (.unknownWord machine.nextWord) := by
  simp only [step, fetch_of_le machine inside, unknown]

section Next

variable {machine} {operation : Operation} (next : machine.Next operation)

include next

theorem step_of_next :
    machine.step =
      match exec operation machine.nextWord machine.movedOn with
      | ⟨.error fault, left, _⟩ => left.stepFault machine.tick machine.counter fault
      | ⟨.ok status, left, events⟩ =>
        left.conclude machine.counter status operation machine.nextWord events := by
  rcases done : exec operation machine.nextWord machine.movedOn with
    ⟨fault | status, left, events⟩
  all_goals
    rw [movedOn] at done
    simp only [step, fetch_of_le machine next.inside, next.decoded, done]

/-- An operation that fails in a step leaves nothing behind but the moved counter. -/
theorem step_of_stopped {fault : Fault}
    (stopped : (exec operation machine.nextWord machine.movedOn).result = .error fault) :
    machine.step = machine.movedOn.stepFault machine.tick machine.counter fault := by
  have untouched := atomic_exec machine.movedOn machine.nextWord fault stopped
  rw [step_of_next next]
  rcases done : exec operation machine.nextWord machine.movedOn with
    ⟨fault | status, left, events⟩
  · rw [done] at stopped untouched
    cases stopped
    rw [← untouched]
  · rw [done] at stopped
    cases stopped

section Done

variable {status : Status}
  (done : (exec operation machine.nextWord machine.movedOn).result = .ok status)

include done

theorem step_of_done :
    machine.step =
      (exec operation machine.nextWord machine.movedOn).machine.conclude machine.counter status
        operation machine.nextWord (exec operation machine.nextWord machine.movedOn).events := by
  rw [step_of_next next]
  rcases went : exec operation machine.nextWord machine.movedOn with
    ⟨fault | answer, left, events⟩
  · rw [went] at done
    cases done
  · rw [went] at done
    cases done
    rfl

/-- Reported or not, an operation that went through is done and counted. -/
theorem machine_step_of_done :
    machine.step.machine =
      (exec operation machine.nextWord machine.movedOn).machine.advance operation := by
  rw [step_of_done next done, conclude]
  split
  · rfl
  · rfl

theorem result_step_of_done : machine.step.result = machine.stepAnswer status := by
  have same := canReport_advance machine operation
  rw [step_of_done next done, conclude, stepAnswer]
  by_cases reportable : machine.Reportable
  · rw [if_pos reportable, if_pos (same.mpr reportable)]
  · rw [if_neg reportable, if_neg (mt same.mp reportable), ← tick_exec_movedOn machine operation]
    rfl

end Done

theorem result_step_ok_iff {status : Status} :
    machine.step.result = .ok status ↔
      machine.Reportable ∧
        (exec operation machine.nextWord machine.movedOn).result = .ok status := by
  cases done : (exec operation machine.nextWord machine.movedOn).result with
  | error fault =>
    rw [step_of_stopped next done]
    simp [stepFault]
  | ok answer =>
    rw [result_step_of_done next done, stepAnswer]
    split
    · rename_i reportable
      simp [reportable]
    · rename_i silent
      simp [silent]

theorem result_step_error_iff {fault : Fault} :
    machine.step.result = .error fault ↔
      (exec operation machine.nextWord machine.movedOn).result = .error fault ∨
        (¬ machine.Reportable ∧ fault = .unwritable (machine.tick + 1) ∧
          ∃ status, (exec operation machine.nextWord machine.movedOn).result = .ok status) := by
  cases done : (exec operation machine.nextWord machine.movedOn).result with
  | error other =>
    rw [step_of_stopped next done]
    simp [stepFault]
  | ok answer =>
    rw [result_step_of_done next done, stepAnswer]
    split
    · rename_i reportable
      simp [reportable]
    · rename_i silent
      simp [silent, eq_comm]

/-- A step that can be reported answers what its operation does. -/
theorem result_step (reportable : machine.Reportable) :
    machine.step.result = (exec operation machine.nextWord machine.movedOn).result := by
  cases done : (exec operation machine.nextWord machine.movedOn).result with
  | error fault => rw [step_of_stopped next done, stepFault]
  | ok status => rw [result_step_of_done next done, stepAnswer, if_pos reportable]

theorem machine_step_of_ok {status : Status} (went : machine.step.result = .ok status) :
    machine.step.machine =
      (exec operation machine.nextWord machine.movedOn).machine.advance operation :=
  machine_step_of_done next ((result_step_ok_iff next).mp went).2

theorem tick_step_of_done {status : Status}
    (done : (exec operation machine.nextWord machine.movedOn).result = .ok status) :
    machine.step.machine.tick = machine.tick + 1 := by
  rw [machine_step_of_done next done, ← tick_exec_movedOn machine operation]
  rfl

/-- The row that the word at the counter matches is the one that is done. -/
theorem Next.row : operation.Matches machine.nextWord :=
  (selects_of_decode next.decoded).row

end Next

/-- All that a step can leave: nothing new, the moved counter, or what its operation
leaves, counted as a step. -/
theorem machine_step :
    machine.step.machine = machine ∨ machine.step.machine = machine.movedOn ∨
      ∃ operation, machine.Next operation ∧
        machine.step.machine =
          (exec operation machine.nextWord machine.movedOn).machine.advance operation := by
  rcases step_beginnings machine with past | ⟨inside, unknown⟩ | ⟨operation, next⟩
  · left
    rw [step_of_past machine past]
    rfl
  · left
    rw [step_of_unknown machine inside unknown]
    rfl
  · right
    cases done : (exec operation machine.nextWord machine.movedOn).result with
    | error fault =>
      left
      rw [step_of_stopped next done, stepFault]
    | ok status => exact .inr ⟨operation, next, machine_step_of_done next done⟩

section Answers

variable {machine}

/-- A step that goes through does the operation of the word it fetches. -/
theorem exists_next {status : Status} (went : machine.step.result = .ok status) :
    ∃ operation, machine.Next operation := by
  rcases step_beginnings machine with past | ⟨inside, unknown⟩ | next
  · rw [step_of_past machine past] at went
    cases went
  · rw [step_of_unknown machine inside unknown] at went
    cases went
  · exact next

theorem reportable_of_ok {status : Status} (went : machine.step.result = .ok status) :
    machine.Reportable := by
  obtain ⟨operation, next⟩ := exists_next went
  exact ((result_step_ok_iff next).mp went).1

/-- A fault of the machine is not met for want of a report. -/
theorem result_exec_of_machineFault {operation : Operation} (next : machine.Next operation)
    {fault : Fault} (failed : machine.step.result = .error fault)
    (machineFault : fault.isMachineFault = true) :
    (exec operation machine.nextWord machine.movedOn).result = .error fault := by
  rcases (result_step_error_iff next).mp failed with stopped | ⟨_, rfl, _⟩
  · exact stopped
  · cases machineFault

/-- A step that fails in its operation leaves nothing behind but the moved counter. -/
theorem machine_step_of_machineFault {operation : Operation} (next : machine.Next operation)
    {fault : Fault} (failed : machine.step.result = .error fault)
    (machineFault : fault.isMachineFault = true) : machine.step.machine = machine.movedOn := by
  rw [step_of_stopped next (result_exec_of_machineFault next failed machineFault), stepFault]

/-- The next step does its operation and counts it, but cannot be reported. -/
structure Unreported (machine : Machine) : Prop where
  silent : ¬ machine.Reportable
  done : ∃ operation status, machine.Next operation ∧
    (exec operation machine.nextWord machine.movedOn).result = .ok status

theorem Unreported.result_step (unreported : machine.Unreported) :
    machine.step.result = .error (.unwritable (machine.tick + 1)) := by
  obtain ⟨operation, status, next, done⟩ := unreported.done
  rw [result_step_of_done next done, stepAnswer, if_neg unreported.silent]

theorem Unreported.tick_step (unreported : machine.Unreported) :
    machine.step.machine.tick = machine.tick + 1 := by
  obtain ⟨operation, status, next, done⟩ := unreported.done
  exact tick_step_of_done next done

theorem Unreported.tick_step_ne (unreported : machine.Unreported) :
    machine.step.machine.tick ≠ machine.tick := by
  have raised := unreported.tick_step
  omega

/-- The faults of the machine apart, a step fails only for want of a report. -/
theorem unreported_of_error {fault : Fault} (failed : machine.step.result = .error fault)
    (other : fault.isMachineFault = false) :
    machine.Unreported ∧ fault = .unwritable (machine.tick + 1) := by
  rcases step_beginnings machine with past | ⟨inside, unknown⟩ | ⟨operation, next⟩
  · rw [step_of_past machine past] at failed
    cases failed
    cases other
  · rw [step_of_unknown machine inside unknown] at failed
    cases failed
    cases other
  · rcases (result_step_error_iff next).mp failed with stopped | ⟨silent, named, status, done⟩
    · rw [isMachineFault_exec _ _ stopped] at other
      cases other
    · exact ⟨⟨silent, operation, status, next, done⟩, named⟩

theorem tick_step_of_machineFault {fault : Fault} (failed : machine.step.result = .error fault)
    (machineFault : fault.isMachineFault = true) : machine.step.machine.tick = machine.tick := by
  rcases step_beginnings machine with past | ⟨inside, unknown⟩ | ⟨operation, next⟩
  · rw [step_of_past machine past]
    rfl
  · rw [step_of_unknown machine inside unknown]
    rfl
  · rw [machine_step_of_machineFault next failed machineFault]
    rfl

/-- A step that goes through raises the tick by one. -/
theorem tick_step_of_ok {status : Status} (went : machine.step.result = .ok status) :
    machine.step.machine.tick = machine.tick + 1 := by
  obtain ⟨operation, next⟩ := exists_next went
  exact tick_step_of_done next ((result_step_ok_iff next).mp went).2

end Answers

/-! ## The place of a machine -/

/-- Two machines stand before the same instruction: memory and the counter are the same. -/
structure SamePlace (before after : Machine) : Prop where
  memory : after.memory = before.memory
  counter : after.counter = before.counter

namespace SamePlace

variable {machine} {after last : Machine} (same : machine.SamePlace after)

include same

theorem nextWord : after.nextWord = machine.nextWord := by
  rw [Machine.nextWord, same.memory, same.counter]
  rfl

theorem next {operation : Operation} (next : machine.Next operation) : after.Next operation where
  inside := by
    rw [same.counter]
    exact next.inside
  decoded := by
    rw [same.nextWord]
    exact next.decoded

theorem trans (more : after.SamePlace last) : machine.SamePlace last :=
  ⟨more.memory.trans same.memory, more.counter.trans same.counter⟩

end SamePlace

theorem samePlace_tickTimers : machine.SamePlace machine.tickTimers.machine :=
  ⟨rfl, rfl⟩

/-! ## What steps keep -/

theorem program_step : machine.step.machine.program = machine.program := by
  rcases machine_step machine with same | moved | ⟨operation, _, done⟩
  · rw [same]
  · rw [moved]
    rfl
  · rw [done]
    exact congrArg HostPart.program (hostPart_exec machine.movedOn machine.nextWord)

theorem settings_step : machine.step.machine.settings = machine.settings := by
  rcases machine_step machine with same | moved | ⟨operation, _, done⟩
  · rw [same]
  · rw [moved]
    rfl
  · rw [done]
    exact congrArg HostPart.settings (hostPart_exec machine.movedOn machine.nextWord)

theorem depth_step (bounded : machine.stack.depth ≤ 16) :
    machine.step.machine.stack.depth ≤ 16 := by
  rcases machine_step machine with same | moved | ⟨operation, _, done⟩
  · rw [same]
    exact bounded
  · rw [moved]
    exact bounded
  · rw [done]
    exact depth_exec machine.movedOn machine.nextWord bounded

theorem lowest_step {count : Nat} (live : count ≤ machine.stack.depth) :
    machine.step.machine.stack.lowest count = machine.stack.lowest count := by
  rcases machine_step machine with same | moved | ⟨operation, _, done⟩
  · rw [same]
  · rw [moved]
    rfl
  · rw [done]
    exact lowest_exec machine.movedOn machine.nextWord live

/-- A step that neither calls nor goes back leaves the return stack alone. -/
theorem stack_step (notCall : ¬ machine.Next .call) (notRet : ¬ machine.Next .ret) :
    machine.step.machine.stack = machine.stack := by
  rcases machine_step machine with same | moved | ⟨operation, next, done⟩
  · rw [same]
  · rw [moved]
    rfl
  · have other_call : operation ≠ .call := by
      rintro rfl
      exact notCall next
    have other_ret : operation ≠ .ret := by
      rintro rfl
      exact notRet next
    rw [done]
    exact (sameStack_exec machine.movedOn machine.nextWord other_call other_ret).stack

end Chip8.Machine
