/-
# Running to a tick

A run steps until the tick limit, unless it ends before: at the tick to pause at,
at a wait for a key while none is held, at a jump to itself, or at a fault. Keys
cannot change during a run, so a wait would last forever, and so would the jump.

After every step the timers tick if the tick is a multiple of the ratio. A ratio
of zero divides nothing; that is met only after the first step.

Every step that goes through raises the tick by one, so the distance to the limit
bounds the number of steps, and the run is a recursion on it.
-/

import Chip8.Machine.Step

namespace Chip8

/-- How a run ended. -/
inductive RunEnd where
  /-- The limit was reached. -/
  | stopped
  /-- The tick to pause at was reached. -/
  | paused
  /-- An instruction waits for a key. -/
  | waiting
  /-- An instruction jumps to itself. -/
  | halted
  deriving DecidableEq, Repr

/-- The name of an ending. -/
def RunEnd.name : RunEnd → String
  | stopped => "stopped"
  | paused => "paused"
  | waiting => "waiting"
  | halted => "halted"

/-- When timers tick and when to pause. -/
structure Pace where
  /-- Timers tick when the tick is a multiple of this. -/
  stepsPerTimerTick : Int := 10
  /-- The tick to pause at. -/
  pauseTick : Option Int := none
  deriving DecidableEq, Repr

namespace Machine

/-- Tick the timers if the tick is a multiple of the ratio. -/
def tickTimersEvery (machine : Machine) (ratio : Int) : Outcome Unit :=
  if ratio = 0 then ⟨.error .zeroTimerRatio, machine, []⟩
  else if machine.tick % ratio = 0 then machine.tickTimers
  else ⟨.ok (), machine, []⟩

/-- How a run ends after a step from `origin` with a status, if it ends. -/
def ending? (machine : Machine) (origin : Word) (status : Status) : Option (RunEnd × Event) :=
  if status = .waiting then some (.waiting, .keyWaitEnded machine.tick)
  else if machine.last = some .jump ∧ machine.counter = origin then
    some (.halted, .selfJump machine.tick origin)
  else none

/-- One turn of a run: a step, then the timers, then the question whether the run
ends here. -/
def turn (ratio : Int) (machine : Machine) : Outcome (Option RunEnd) :=
  match machine.step with
  | ⟨.error fault, left, events⟩ => ⟨.error fault, left, events⟩
  | ⟨.ok status, stepped, events⟩ =>
    match stepped.tickTimersEvery ratio with
    | ⟨.error fault, left, more⟩ => ⟨.error fault, left, events ++ more⟩
    | ⟨.ok _, ticked, more⟩ =>
      match ticked.ending? machine.counter status with
      | some (ending, event) => ⟨.ok (some ending), ticked, events ++ more ++ [event]⟩
      | none => ⟨.ok none, ticked, events ++ more⟩

/-- Run for at most so many turns. The events come after those in `log`, which
holds the latest first. -/
def runFor (pace : Pace) : Nat → List Event → Machine → Outcome RunEnd
  | 0, log, machine => ⟨.ok .stopped, machine, log.reverse⟩
  | turns + 1, log, machine =>
    if pace.pauseTick = some machine.tick then
      ⟨.ok .paused, machine, (.paused machine.tick :: log).reverse⟩
    else
      match machine.turn pace.stepsPerTimerTick with
      | ⟨.error fault, left, events⟩ => ⟨.error fault, left, log.reverse ++ events⟩
      | ⟨.ok (some ending), left, events⟩ => ⟨.ok ending, left, log.reverse ++ events⟩
      | ⟨.ok none, left, events⟩ => runFor pace turns (events.reverse ++ log) left

@[simp] theorem runFor_zero (pace : Pace) (log : List Event) (machine : Machine) :
    runFor pace 0 log machine = ⟨.ok .stopped, machine, log.reverse⟩ := rfl

/-- Events of earlier turns come first and change nothing else. -/
theorem runFor_log (pace : Pace) (turns : Nat) (log : List Event) (machine : Machine) :
    runFor pace turns log machine =
      { runFor pace turns [] machine with
        events := log.reverse ++ (runFor pace turns [] machine).events } := by
  induction turns generalizing log machine with
  | zero => simp
  | succ turns ih =>
    simp only [runFor]
    split
    · simp
    · split
      · simp
      · simp
      · rename_i left events _
        rw [ih, ih (events.reverse ++ [])]
        simp

/-- Run until the tick reaches a limit. -/
def run (limit : Int) (pace : Pace) (machine : Machine) : Outcome RunEnd :=
  runFor pace (limit - machine.tick).toNat [] machine

end Machine

end Chip8
