/-
# Headless runs

A program runs from power-on to the end of its run without a host: some keys are
held all the time, and what remains is the screen as text, the ticks, and how
the run ended. A fault of the machine is one way for a run to end.

What is wrong before the run begins is refused, and the first thing wrong is told:
the configuration, a program that does not fit, or a key that does not exist. The
configuration is loaded as it is given, and what it comes to is loaded once more
when the machine is built.
-/

import Chip8.Config.Load

namespace Chip8

/-- How a headless run ended. -/
inductive FinalState where
  /-- The run ended by itself. -/
  | ended (ending : RunEnd)
  /-- The machine met a fault. -/
  | fault
  deriving DecidableEq, Repr

/-- The name of a final state. -/
def FinalState.name : FinalState → String
  | ended ending => ending.name
  | fault => "fault"

/-- What remains of a headless run. -/
structure RunReport where
  /-- The screen as text. -/
  screen : String
  /-- The tick at the end. -/
  ticks : Int
  /-- How the run ended. -/
  state : FinalState
  deriving DecidableEq, Repr

/-- Why a headless run gives no report. -/
inductive Refusal where
  /-- There is something wrong with its configuration. -/
  | config (failure : Config.Failure)
  /-- The machine met a fault that is no way for a run to end. -/
  | machine (fault : Fault)
  deriving DecidableEq, Repr

/-- The text of a refusal. -/
def Refusal.message : Refusal → String
  | config failure => failure.message
  | machine fault => fault.message

/-- A headless run: its report or why there is none, and the events. -/
structure HeadlessRun where
  /-- The report, or why there is none. -/
  result : Except Refusal RunReport
  /-- The events, in order. -/
  events : List Event

namespace Machine

/-- A new machine with a program, built to a configuration as a caller gives it. -/
def buildGiven (parser : Parser) (directory : Directory) (entropy : Nat) (given : Option Entries)
    (program : List Byte) : Except Config.Failure (Outcome Unit) :=
  match Config.load parser directory (Config.given given) with
  | .error failure => .error failure
  | .ok config => .ok (build config.settings (config.random entropy) program)

/-- Hold keys down, up to the first that does not exist. -/
def holdKeys (machine : Machine) : List Int → Except Fault Machine
  | [] => .ok machine
  | key :: rest =>
    match machine.setKey key true with
    | ⟨.ok _, next, _⟩ => next.holdKeys rest
    | ⟨.error fault, _, _⟩ => .error fault

/-- What remains of a machine whose run is over. -/
def report (machine : Machine) (state : FinalState) : RunReport :=
  ⟨machine.screen.render "#" ".", machine.tick, state⟩

/-- Run to the end and report. -/
def runToReport (machine : Machine) (config : Config) : HeadlessRun :=
  match machine.run config.tickLimit config.pace with
  | ⟨.ok ending, left, events⟩ => ⟨.ok (left.report (.ended ending)), events⟩
  | ⟨.error fault, left, events⟩ =>
    if fault.isMachineFault then
      ⟨.ok (left.report .fault), events ++ [.runFaulted left.tick fault]⟩
    else ⟨.error (.machine fault), events⟩

/-- Run to the end with keys held and report. -/
def runHolding (machine : Machine) (config : Config) (keys : List Int) : HeadlessRun :=
  match machine.holdKeys keys with
  | .error fault => ⟨.error (.machine fault), []⟩
  | .ok held => held.runToReport config

end Machine

/-- Run a program with keys held, to a configuration as a caller gives it. Without a seed the
random stream starts from `entropy`. -/
def runHeadless (parser : Parser) (directory : Directory) (entropy : Nat) (program : List Byte)
    (given : Option Entries) (keys : List Int) : HeadlessRun :=
  match Config.load parser directory (Config.given given) with
  | .error failure => ⟨.error (.config failure), []⟩
  | .ok config =>
    match Machine.buildGiven parser directory entropy (some config.toEntries) program with
    | .error failure => ⟨.error (.config failure), []⟩
    | .ok ⟨.error fault, _, events⟩ => ⟨.error (.machine fault), events⟩
    | .ok ⟨.ok _, built, events⟩ =>
      let run := built.runHolding config keys
      ⟨run.result, events ++ run.events⟩

end Chip8
