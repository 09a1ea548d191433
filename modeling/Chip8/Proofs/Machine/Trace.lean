/-
# The trace of a step

A machine that is not quiet reports one snapshot for every step that goes through. For a step that
meets a fault of the machine it reports the fault, with the tick and the address of before, and no
snapshot. A step that is done and cannot be reported leaves neither, only what its operation told.

A snapshot shows two moments at once. The address and the word are those of the instruction, from
before the step, also if the step has overwritten its own instruction; the tick, the registers and
the timers are as the step has left them.
-/

import Chip8.Proofs.Machine.Quiet

namespace Chip8

/-- The snapshot that an event reports, if it is the trace of a step. -/
def Event.snapshot? : Event → Option Snapshot
  | stepped snapshot => some snapshot
  | _ => none

/-- The snapshots among events, in order. -/
def snapshotsOf (events : List Event) : List Snapshot :=
  events.filterMap Event.snapshot?

theorem snapshotsOf_append (events more : List Event) :
    snapshotsOf (events ++ more) = snapshotsOf events ++ snapshotsOf more :=
  List.filterMap_append

/-- Events that leave steps to others show no snapshots. -/
theorem snapshotsOf_of_untraced {events : List Event} (plain : untraced events = events) :
    snapshotsOf events = [] := by
  rw [snapshotsOf, List.filterMap_eq_nil_iff]
  intro event reported
  have other := List.filter_eq_self.mp plain event reported
  cases event with
  | stepped => cases other
  | _ => rfl

theorem mem_snapshotsOf {events : List Event} {snapshot : Snapshot} :
    snapshot ∈ snapshotsOf events ↔ .stepped snapshot ∈ events := by
  rw [snapshotsOf, List.mem_filterMap]
  constructor
  · rintro ⟨event, reported, shown⟩
    cases event with
    | stepped other =>
      cases shown
      exact reported
    | _ => cases shown
  · exact fun reported => ⟨.stepped snapshot, reported, rfl⟩

namespace Machine

/-- A snapshot shows the next step of a machine, which goes through: where its instruction was,
which one it was, and what the machine is like afterwards. -/
structure Traces (machine : Machine) (snapshot : Snapshot) : Prop where
  fetched : machine.memory.fetch machine.counter.toNat = .ok snapshot.word
  decoded : decode snapshot.word = some snapshot.operation
  went : machine.step.result = .ok snapshot.status
  origin : snapshot.origin = machine.counter
  tick : snapshot.tick = machine.tick + 1
  index : snapshot.index = machine.step.machine.index
  depth : snapshot.depth = machine.step.machine.stack.depth
  delay : snapshot.delay = machine.step.machine.delay
  sound : snapshot.sound = machine.step.machine.sound
  registers : snapshot.registers = machine.step.machine.registers

variable {machine : Machine} {status : Status}

/-- A step that goes through reports what its operation does, and then itself. -/
theorem events_step_of_ok {operation : Operation} (next : machine.Next operation)
    (went : machine.step.result = .ok status) :
    machine.step.events = (exec operation machine.nextWord machine.movedOn).events ++
      machine.step.machine.stepReport machine.counter status operation machine.nextWord := by
  obtain ⟨reportable, done⟩ := (result_step_ok_iff next).mp went
  have told := (canReport_advance machine operation).mpr reportable
  rw [step_of_done next done, conclude, if_pos told]

/-- A step that goes through shows one snapshot, or none if the machine is quiet. -/
theorem exists_traces (went : machine.step.result = .ok status) :
    ∃ snapshot, machine.Traces snapshot ∧
      snapshotsOf machine.step.events =
        if machine.settings.quiet then [] else [snapshot] := by
  obtain ⟨operation, next⟩ := exists_next went
  have silent := snapshotsOf_of_untraced
    (untraced_exec machine.movedOn operation machine.nextWord)
  refine ⟨machine.step.machine.snapshot machine.counter status operation machine.nextWord,
    ⟨fetch_of_le machine next.inside, next.decoded, went, rfl, tick_step_of_ok went, rfl, rfl, rfl,
      rfl, rfl⟩, ?_⟩
  rw [events_step_of_ok next went, snapshotsOf_append, silent, List.nil_append, stepReport,
    settings_step]
  split
  · rfl
  · rfl

/-- A step that meets a fault of the machine reports it and nothing else. -/
theorem events_step_of_machineFault {fault : Fault} (failed : machine.step.result = .error fault)
    (machineFault : fault.isMachineFault = true) :
    machine.step.events = [.faulted machine.tick machine.counter fault] := by
  rcases step_beginnings machine with past | ⟨inside, unknown⟩ | ⟨operation, next⟩
  · rw [step_of_past machine past] at failed ⊢
    cases failed
    rfl
  · rw [step_of_unknown machine inside unknown] at failed ⊢
    cases failed
    rfl
  · rw [step_of_stopped next (result_exec_of_machineFault next failed machineFault), stepFault]

/-- A step that cannot be reported leaves only what its operation has told. -/
theorem Unreported.exists_events_step (unreported : machine.Unreported) :
    ∃ operation, machine.step.events =
      (exec operation machine.nextWord machine.movedOn).events := by
  obtain ⟨operation, status, next, done⟩ := unreported.done
  have silent := mt (canReport_advance machine operation).mp unreported.silent
  refine ⟨operation, ?_⟩
  rw [step_of_done next done, conclude, if_neg silent]

theorem snapshotsOf_step_of_error {fault : Fault} (failed : machine.step.result = .error fault) :
    snapshotsOf machine.step.events = [] := by
  cases machineFault : fault.isMachineFault with
  | true =>
    rw [events_step_of_machineFault failed machineFault]
    rfl
  | false =>
    obtain ⟨operation, told⟩ :=
      (unreported_of_error failed machineFault).1.exists_events_step
    rw [told]
    exact snapshotsOf_of_untraced (untraced_exec machine.movedOn operation machine.nextWord)

/-- Whatever snapshot a step reports shows that step. -/
theorem traces_of_mem {snapshot : Snapshot}
    (reported : .stepped snapshot ∈ machine.step.events) : machine.Traces snapshot := by
  have shown := mem_snapshotsOf.mpr reported
  cases result : machine.step.result with
  | error fault =>
    rw [snapshotsOf_step_of_error result] at shown
    cases shown
  | ok status =>
    obtain ⟨trace, traces, only⟩ := exists_traces result
    rw [only] at shown
    split at shown
    · cases shown
    · exact List.mem_singleton.mp shown ▸ traces

end Machine

end Chip8
