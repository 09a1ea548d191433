/-
# How a step fails

A step fails for one of a few reasons, asked in this order: the word would not lie
in memory, the word matches no row, or its operation meets an obstacle. `StepFault`
lists them with the fault that each raises. Where none of them holds a step still fails
if it cannot be reported, and then only. On a raw machine there is no further reason: no
missing cell, no number that is no byte or word, no division by zero.

A step that fails for a listed reason leaves the machine as it was, except that the
counter has moved on if an operation was begun. So a fault in fetching or decoding stays
for good. A step that cannot be reported is another matter: when that turns out, its
operation is done and the step is counted.
-/

import Chip8.Proofs.Representation
import Chip8.Proofs.Text.Numeral

namespace Chip8

open Operation

/-- Exactly the values of no operation's word are the word of no operation. -/
theorem Operation.ofCode?_eq_none_iff {code : Int} :
    ofCode? code = none ↔ ∀ operation : Operation, (operation.code.toNat : Int) ≠ code := by
  rw [ofCode?, List.find?_eq_none]
  constructor
  · intro absent operation same
    exact absent operation (mem_all operation) (beq_iff_eq.mpr same)
  · intro absent operation _ same
    exact absent operation (beq_iff_eq.mp same)

namespace Machine

variable (machine : Machine)

/-- Why a step fails, and the fault it meets. -/
inductive StepFault : Fault → Prop
  | pastTheEnd (past : 0xFFE < machine.counter.toNat) :
    StepFault (.outsideMemory machine.counter.toNat 2)
  | noRow (inside : machine.counter.toNat ≤ 0xFFE)
    (unmatched : ∀ operation : Operation, ¬ operation.Matches machine.nextWord) :
    StepFault (.unknownWord machine.nextWord)
  | obstacle {operation : Operation} {fault : Fault} (inside : machine.counter.toNat ≤ 0xFFE)
    (row : operation.Matches machine.nextWord)
    (obstacle : machine.movedOn.Obstacle machine.nextWord operation fault) :
    StepFault fault

variable {machine} {fault : Fault}

/-! ## The reasons are all there are -/

/-- An operation with an obstacle is never the one whose row others go before. -/
theorem Obstacle.selects {word : Word} {operation : Operation}
    (obstacle : machine.Obstacle word operation fault) (row : operation.Matches word) :
    Selects word operation := by
  refine ⟨row, ?_⟩
  rintro rfl
  cases obstacle

theorem StepFault.isMachineFault (reason : machine.StepFault fault) :
    fault.isMachineFault = true := by
  cases reason with
  | pastTheEnd | noRow => rfl
  | obstacle _ _ obstacle => cases obstacle with | _ => rfl

theorem StepFault.fails (wellFormed : machine.WellFormed) (reason : machine.StepFault fault) :
    machine.step.result = .error fault := by
  cases reason with
  | pastTheEnd past =>
    rw [step_of_past machine past]
    rfl
  | noRow inside unmatched =>
    rw [step_of_unknown machine inside (decode_eq_none_iff.mpr unmatched)]
    rfl
  | obstacle inside row obstacle =>
    have next : machine.Next _ := ⟨inside, decode_of_selects (obstacle.selects row)⟩
    refine (result_step_error_iff next).mpr (.inl ?_)
    exact (exec_error_iff machine.movedOn machine.nextWord wellFormed.depth_le).mpr obstacle

theorem stepFault_of_machineFault (wellFormed : machine.WellFormed)
    (failed : machine.step.result = .error fault) (machineFault : fault.isMachineFault = true) :
    machine.StepFault fault := by
  rcases step_beginnings machine with past | ⟨inside, unknown⟩ | ⟨operation, next⟩
  · rw [step_of_past machine past] at failed
    cases failed
    exact .pastTheEnd past
  · rw [step_of_unknown machine inside unknown] at failed
    cases failed
    exact .noRow inside (decode_eq_none_iff.mp unknown)
  · have stopped := result_exec_of_machineFault next failed machineFault
    have obstacle :=
      (exec_error_iff machine.movedOn machine.nextWord wellFormed.depth_le).mp stopped
    exact .obstacle next.inside next.row obstacle

theorem StepFault.ne_unhandledCode {code : Int} : ¬ machine.StepFault (.unhandledCode code) := by
  rintro (_ | _ | ⟨_, _, obstacle⟩)
  cases obstacle

/-- Where none of the reasons holds the operation goes through. -/
theorem exists_done (wellFormed : machine.WellFormed) (none : ∀ fault, ¬ machine.StepFault fault) :
    ∃ operation status, machine.Next operation ∧
      (exec operation machine.nextWord machine.movedOn).result = .ok status := by
  rcases step_beginnings machine with past | ⟨inside, unknown⟩ | ⟨operation, next⟩
  · exact absurd (.pastTheEnd past) (none _)
  · exact absurd (.noRow inside (decode_eq_none_iff.mp unknown)) (none _)
  · refine ⟨operation, ?_⟩
    cases done : (exec operation machine.nextWord machine.movedOn).result with
    | error fault =>
      have obstacle :=
        (exec_error_iff machine.movedOn machine.nextWord wellFormed.depth_le).mp done
      exact absurd (.obstacle next.inside next.row obstacle) (none fault)
    | ok status => exact ⟨status, next, rfl⟩

theorem step_error_iff (wellFormed : machine.WellFormed) :
    machine.step.result = .error fault ↔
      machine.StepFault fault ∨
        (¬ machine.Reportable ∧ (∀ other, ¬ machine.StepFault other) ∧
          fault = .unwritable (machine.tick + 1)) := by
  constructor
  · intro failed
    cases other : fault.isMachineFault with
    | true => exact .inl (stepFault_of_machineFault wellFormed failed other)
    | false =>
      obtain ⟨unreported, named⟩ := unreported_of_error failed other
      refine .inr ⟨unreported.silent, ?_, named⟩
      intro reason listed
      have also := listed.fails wellFormed
      rw [failed] at also
      cases also
      rw [listed.isMachineFault] at other
      cases other
  · rintro (reason | ⟨silent, none, rfl⟩)
    · exact reason.fails wellFormed
    · exact Unreported.result_step ⟨silent, exists_done wellFormed none⟩

/-- An integer that is no operation's word is named, if it can be written. -/
theorem execCode_error_iff (wellFormed : machine.WellFormed) {code : Int} {word : Word} :
    (machine.execCode code word).result = .error (.ofUnhandledCode code) ↔
      ∀ operation : Operation, (operation.code.toNat : Int) ≠ code := by
  rw [← ofCode?_eq_none_iff, execCode]
  cases ofCode? code with
  | none => simp [refuse]
  | some operation =>
    constructor
    · intro failed
      have obstacle := (exec_error_iff machine word wellFormed.depth_le).mp failed
      rw [Fault.ofUnhandledCode] at obstacle
      split at obstacle
      · cases obstacle
      · cases obstacle
    · intro absent
      cases absent

/-- The text of a fault in decoding ends in the four nibbles of the word. -/
theorem message_unknownWord (word : Word) :
    (Fault.unknownWord word).message =
      "Unknown opcode " ++ String.ofList (Numeral.lastDigits 4 word.toNat) := by
  rw [← Numeral.hex_of_lt 3 word.toNat_lt]
  rfl

/-- A step fails exactly for the listed reasons or, where none of them holds, for want of a
report, and otherwise goes on or waits. A raw machine knows no further reason. The fault of a
number that is no operation's word is met only where such a number is given directly, and names
the number if it can be written. -/
theorem step_fails_iff (wellFormed : machine.WellFormed) :
    (∀ fault, machine.step.result = .error fault ↔
      machine.StepFault fault ∨
        (¬ machine.Reportable ∧ (∀ other, ¬ machine.StepFault other) ∧
          fault = .unwritable (machine.tick + 1))) ∧
      ((∀ fault, ¬ machine.StepFault fault) → machine.Reportable →
        machine.step.result = .ok .running ∨ machine.step.result = .ok .waiting) ∧
      (∀ fault left, RawMachine.step.run machine.toRaw = .error fault left →
        ∃ known, fault = .refused known ∧ machine.step.result = .error known) ∧
      (∀ code, machine.step.result ≠ .error (.unhandledCode code)) ∧
      (∀ code word,
        (machine.execCode code word).result =
            .error (if IsWritable code then .unhandledCode code else .unwritable code) ↔
          ∀ operation : Operation, (operation.code.toNat : Int) ≠ code) ∧
      (Fault.unknownWord machine.nextWord).message =
        "Unknown opcode " ++ String.ofList (Numeral.lastDigits 4 machine.nextWord.toNat) := by
  refine ⟨fun fault => step_error_iff wellFormed, ?_, ?_, ?_,
    fun code word => execCode_error_iff wellFormed, message_unknownWord machine.nextWord⟩
  · intro none reportable
    cases result : machine.step.result with
    | error fault =>
      rcases (step_error_iff wellFormed).mp result with reason | ⟨silent, _⟩
      · exact absurd reason (none fault)
      · exact absurd reportable silent
    | ok status =>
      cases status with
      | running => exact .inl rfl
      | waiting => exact .inr rfl
  · intro fault left failed
    rw [run_step machine wellFormed.depth_le, Outcome.toRaw] at failed
    cases result : machine.step.result with
    | error known =>
      rw [result] at failed
      cases failed
      exact ⟨known, rfl, rfl⟩
    | ok status =>
      rw [result] at failed
      cases failed
  · -- a step only ever does an operation by its own word
    intro code failed
    exact StepFault.ne_unhandledCode (stepFault_of_machineFault wellFormed failed rfl)

/-- A return at power-on fails for want of a call, and for no other reason. -/
theorem step_fails_iff_at_lone_ret :
    (bare [0x00, 0xEE]).WellFormed ∧ (bare [0x00, 0xEE]).StepFault .stackEmpty := by
  have failed : (bare [0x00, 0xEE]).step.result = .error .stackEmpty := by decide +kernel
  have wellFormed := wellFormed_bare [0x00, 0xEE]
  rcases ((step_fails_iff wellFormed).1 .stackEmpty).mp failed with reason | ⟨_, _, other⟩
  · exact ⟨wellFormed, reason⟩
  · cases other

theorem unreported_load_at_widest_tick :
    ({ bare [0x60, 0x01] with tick := widest } : Machine).Unreported where
  silent := not_reportable_of_widest _ rfl rfl
  done := ⟨.loadByte, .running, ⟨by decide +kernel, by decide +kernel⟩, rfl⟩

/-- A byte is loaded at the widest tick: no reason is listed for this step to fail, and yet it
neither goes on nor waits. -/
theorem step_fails_unlisted_at_widest_tick :
    let machine := { bare [0x60, 0x01] with tick := widest }
    machine.WellFormed ∧ (∀ fault, ¬ machine.StepFault fault) ∧
      ∀ status, machine.step.result ≠ .ok status := by
  intro machine
  have wellFormed : machine.WellFormed := ⟨Nat.zero_le 16, by decide⟩
  have failed := unreported_load_at_widest_tick.result_step
  refine ⟨wellFormed, ?_, ?_⟩
  · intro fault reason
    have also := reason.fails wellFormed
    rw [failed] at also
    cases also
    cases reason.isMachineFault
  · intro status went
    rw [failed] at went
    cases went

/-! ## What a failed step leaves -/

/-- A step that fails before its operation leaves the machine as it was. -/
theorem step_machine_of_early {machine : Machine}
    (early : 0xFFE < machine.counter.toNat ∨
      ∀ operation : Operation, ¬ operation.Matches machine.nextWord) :
    machine.step.machine = machine := by
  rcases step_beginnings machine with past | ⟨inside, unknown⟩ | ⟨operation, next⟩
  · rw [step_of_past machine past]
    rfl
  · rw [step_of_unknown machine inside unknown]
    rfl
  · rcases early with past | unmatched
    · exact absurd next.inside (Nat.not_le.mpr past)
    · exact absurd next.row (unmatched operation)

theorem step_machine_of_late {machine : Machine} {operation : Operation}
    (inside : machine.counter.toNat ≤ 0xFFE) (row : operation.Matches machine.nextWord)
    (failed : machine.step.result = .error fault) (machineFault : fault.isMachineFault = true) :
    machine.step.machine = machine.movedOn := by
  obtain ⟨winner, selected⟩ := row.exists_selects
  exact machine_step_of_machineFault ⟨inside, decode_of_selects selected⟩ failed machineFault

theorem run_step_of_error (wellFormed : machine.WellFormed)
    (failed : machine.step.result = .error fault) :
    RawMachine.step.run machine.toRaw = .error (.refused fault) machine.step.machine.toRaw := by
  rw [run_step machine wellFormed.depth_le, Outcome.toRaw, failed]

/-- A step that meets a fault of the machine leaves nothing half done: before its operation it
leaves all as it was, for any number of further steps, and in its operation only the counter
has moved. A step that fails otherwise cannot be reported; it leaves nothing half done either,
as its operation has gone through and the step is counted and noted. -/
theorem step_fails_atomically (wellFormed : machine.WellFormed)
    (failed : machine.step.result = .error fault) :
    (fault.isMachineFault = true →
      ((0xFFE < machine.counter.toNat ∨
          ∀ operation : Operation, ¬ operation.Matches machine.nextWord) →
        machine.step.machine = machine ∧
        RawMachine.step.run machine.toRaw = .error (.refused fault) machine.toRaw ∧
        ∀ turns, let later := (fun state : Machine => state.step.machine)^[turns] machine
          later = machine ∧ later.step.result = .error fault) ∧
      (machine.counter.toNat ≤ 0xFFE →
        (∃ operation : Operation, operation.Matches machine.nextWord) →
        machine.step.machine = { machine with counter := machine.counter + 2 } ∧
        RawMachine.step.run machine.toRaw =
          .error (.refused fault)
            { machine.toRaw with counter := (machine.toRaw.counter + 2) % 65536 })) ∧
    (fault.isMachineFault = false →
      fault = .unwritable (machine.tick + 1) ∧ machine.settings.quiet = false ∧
      ¬ IsWritable (machine.tick + 1) ∧
      (∃ operation status, machine.Next operation ∧
        let done := exec operation machine.nextWord { machine with counter := machine.counter + 2 }
        done.result = .ok status ∧
        machine.step.machine =
          { done.machine with tick := machine.tick + 1, last := some operation }) ∧
      RawMachine.step.run machine.toRaw = .error (.refused fault) machine.step.machine.toRaw) := by
  have written := run_step_of_error wellFormed failed
  constructor
  · intro machineFault
    constructor
    · intro early
      have same := step_machine_of_early early
      rw [same] at written
      refine ⟨same, written, ?_⟩
      intro turns
      have still :=
        Function.iterate_fixed (f := fun state : Machine => state.step.machine) same turns
      exact ⟨still, by rw [still]; exact failed⟩
    · rintro inside ⟨operation, row⟩
      have moved := step_machine_of_late inside row failed machineFault
      rw [moved, toRaw_movedOn] at written
      exact ⟨moved, written⟩
  · intro other
    obtain ⟨unreported, named⟩ := unreported_of_error failed other
    obtain ⟨loud, wide⟩ := not_or.mp unreported.silent
    obtain ⟨operation, status, next, done⟩ := unreported.done
    have left := machine_step_of_done next done
    rw [advance, tick_exec_movedOn] at left
    exact ⟨named, Bool.eq_false_iff.mpr loud, wide, ⟨operation, status, next, done, left⟩, written⟩

/-- Three digits that would end behind memory, and a word that matches no row. -/
theorem step_fails_atomically_late_and_early :
    let late : Machine := { bare [0xF0, 0x33] with index := 0xFFE }
    let early := bare [0xFF, 0xFF]
    late.step.machine = { late with counter := late.counter + 2 } ∧
      early.step.machine = early := by
  intro late early
  have late_failed : late.step.result = .error (.outsideMemory 0xFFE 3) := by decide +kernel
  have late_row : Operation.storeDigits.Matches late.nextWord := by decide +kernel
  have late_inside : late.counter.toNat ≤ 0xFFE := by decide +kernel
  have late_wellFormed : late.WellFormed := ⟨by decide, by decide⟩
  have early_failed : early.step.result = .error (.unknownWord 0xFFFF) := by decide +kernel
  have early_unknown : decode early.nextWord = none := by decide +kernel
  have late_atomic := (step_fails_atomically late_wellFormed late_failed).1 rfl
  have early_atomic := (step_fails_atomically (wellFormed_bare _) early_failed).1 rfl
  have left_late := late_atomic.2 late_inside ⟨_, late_row⟩
  have left_early := early_atomic.1 (.inr (decode_eq_none_iff.mp early_unknown))
  exact ⟨left_late.1, left_early.1⟩

/-- A byte is loaded at the widest tick: the step fails, and yet it is counted. -/
theorem step_fails_counted_at_widest_tick :
    let machine := { bare [0x60, 0x01] with tick := widest }
    machine.WellFormed ∧ (∃ fault, machine.step.result = .error fault) ∧
      machine.step.machine.tick ≠ machine.tick := by
  intro machine
  have unreported : machine.Unreported := unreported_load_at_widest_tick
  exact ⟨⟨Nat.zero_le 16, by decide⟩, ⟨_, unreported.result_step⟩, unreported.tick_step_ne⟩

end Machine

end Chip8
