/-
# Headless runs on integers

On a raw machine anything can escape from a run: only the faults of the machine itself are
taken for its end, and a missing cell or a division by zero is none of them. The statement
here is that the raw run answers just what the other one does. So nothing escapes from the
one that does not escape from the other, and nothing else is reported.
-/

import Chip8.Headless
import Chip8.Proofs.Raw.Simulation.Run

namespace Chip8

/-- Why a raw run gives no report. -/
inductive RawRefusal where
  /-- There is something wrong with its configuration. -/
  | config (failure : Config.Failure)
  /-- Something went wrong that is no way for a run to end. -/
  | machine (fault : RawFault)

/-- A refusal on a raw machine. -/
def Refusal.toRaw : Refusal → RawRefusal
  | config failure => .config failure
  | machine fault => .machine (.refused fault)

/-- Whether something that went wrong is a fault of the machine itself. -/
def RawFault.isMachineFault : RawFault → Bool
  | refused fault => fault.isMachineFault
  | _ => false

/-- The screen as text, one line for each row. -/
def RawScreen.render (screen : RawScreen) (lit dark : String) : String :=
  "\n".intercalate (screen.pixels.map (Display.renderRow lit dark))

namespace RawMachine

def holdKeys : List Int → RawAction Unit
  | [] => pure ()
  | key :: rest => do
    setKey key true
    holdKeys rest

/-- Run to the end, and take a fault of the machine for an end. -/
def runToState (config : Config) : RawAction FinalState := fun machine =>
  match (run config.tickLimit config.pace).run machine with
  | .ok ending left => .ok (.ended ending) left
  | .error fault left => if fault.isMachineFault then .ok .fault left else .error fault left

def runHolding (config : Config) (keys : List Int) : RawAction RunReport := do
  holdKeys keys
  let state ← runToState config
  let left ← get
  return ⟨left.screen.render "#" ".", left.tick, state⟩

/-- Run a program with keys held, to a configuration as a caller gives it. -/
def runHeadless (parser : Parser) (directory : Directory) (entropy : Nat) (program : List Byte)
    (given : Option Entries) (keys : List Int) : Except RawRefusal RunReport :=
  match Config.load parser directory (Config.given given) with
  | .error failure => .error (.config failure)
  | .ok config =>
    match Config.load parser directory (Config.given (some config.toEntries)) with
    | .error failure => .error (.config failure)
    | .ok again =>
      match build again.settings (again.random entropy) program with
      | .error fault _ => .error (.machine fault)
      | .ok _ built =>
        match (runHolding config keys).run built with
        | .error fault _ => .error (.machine fault)
        | .ok report _ => .ok report

end RawMachine

/-! ## The same answers -/

open RawMachine

theorem Display.render_toRaw {width height : Int} (display : Display width height)
    (lit dark : String) : display.toRaw.render lit dark = display.render lit dark := by
  rw [RawScreen.render, Display.render, Display.toRaw, List.map_map]
  rfl

/-- What is reported of a raw machine is what is reported of the machine. -/
theorem report_toRaw (machine : Machine) (state : FinalState) :
    (⟨machine.toRaw.screen.render "#" ".", machine.toRaw.tick, state⟩ : RunReport) =
      machine.report state := by
  rw [Machine.report, ← Display.render_toRaw]
  rfl

section Answers

variable {machine : Machine} (wellFormed : machine.WellFormed)

include wellFormed

/-- Holding keys ends at the same machine, or at the same fault. -/
theorem run_holdKeys (keys : List Int) :
    (∃ held, machine.holdKeys keys = .ok held ∧ held.WellFormed ∧
      (RawMachine.holdKeys keys).run machine.toRaw = .ok () held.toRaw) ∨
    ∃ fault left, machine.holdKeys keys = .error fault ∧
      (RawMachine.holdKeys keys).run machine.toRaw = .error (.refused fault) left := by
  induction keys generalizing machine with
  | nil => exact .inl ⟨machine, rfl, wellFormed, rfl⟩
  | cons key rest ih =>
    have kept := wellFormed.setKey key true
    have pressed := run_setKey machine key true
    rw [Machine.holdKeys, RawMachine.holdKeys, EStateM.run_bind, pressed]
    rcases outcome : machine.setKey key true with ⟨fault | _, next, events⟩
    · exact .inr ⟨fault, next.toRaw, rfl, rfl⟩
    · rw [outcome] at kept
      exact ih kept

theorem run_runToState (config : Config) :
    (RawMachine.runToState config).run machine.toRaw =
      let outcome := machine.run config.tickLimit config.pace
      match outcome.result with
      | .ok ending => .ok (.ended ending) outcome.machine.toRaw
      | .error fault =>
        if fault.isMachineFault then .ok .fault outcome.machine.toRaw
        else .error (.refused fault) outcome.machine.toRaw := by
  have ran := run_run machine wellFormed.depth_le config.tickLimit config.pace
  rw [EStateM.run, RawMachine.runToState, ran]
  rcases machine.run config.tickLimit config.pace with ⟨fault | ending, left, events⟩
  · rfl
  · rfl

theorem run_runHolding (config : Config) (keys : List Int) :
    (match (RawMachine.runHolding config keys).run machine.toRaw with
      | .error fault _ => .error (RawRefusal.machine fault)
      | .ok report _ => .ok report) =
      (machine.runHolding config keys).result.mapError Refusal.toRaw := by
  rw [RawMachine.runHolding, Machine.runHolding, EStateM.run_bind]
  rcases run_holdKeys wellFormed keys with ⟨held, holding, kept, same⟩ | ⟨fault, left, failed, same⟩
  · have ended := run_runToState kept config
    simp only [same, holding, EStateM.run_bind, ended]
    rw [Machine.runToReport]
    rcases held.run config.tickLimit config.pace with ⟨fault | ending, left, events⟩
    · simp only
      cases fault.isMachineFault with
      | true => exact congrArg Except.ok (report_toRaw left .fault)
      | false => rfl
    · exact congrArg Except.ok (report_toRaw left (.ended ending))
  · rw [same, failed]
    rfl

end Answers

/-- The raw run reports what the run does, and refuses what the run does. -/
theorem runHeadless_toRaw (parser : Parser) (directory : Directory) (entropy : Nat)
    (program : List Byte) (given : Option Entries) (keys : List Int) :
    RawMachine.runHeadless parser directory entropy program given keys =
      (Chip8.runHeadless parser directory entropy program given keys).result.mapError
        Refusal.toRaw := by
  rw [RawMachine.runHeadless, Chip8.runHeadless]
  cases Config.load parser directory (Config.given given) with
  | error failure => rfl
  | ok config =>
    simp only [Machine.buildGiven]
    cases Config.load parser directory (Config.given (some config.toEntries)) with
    | error failure => rfl
    | ok again =>
      have wellFormed := Machine.wellFormed_build again.settings (again.random entropy) program
      simp only [build_eq]
      generalize Machine.build again.settings (again.random entropy) program = built at wellFormed
      rcases built with ⟨fault | _, machine, events⟩
      · rfl
      · exact run_runHolding wellFormed config keys

end Chip8
