/-
# Configurations

A configuration holds seven settings, already checked. Whoever has one knows
that the limits are positive and that a tick to pause at is not negative.
-/

import Chip8.Machine.Run
import Chip8.Value

namespace Chip8

/-- A checked configuration. -/
structure Config where
  /-- A run stops at this tick. -/
  tickLimit : Int := 100000
  /-- A run pauses at this tick. -/
  pauseTick : Option Int := none
  /-- Timers tick after so many steps. -/
  stepsPerTimerTick : Int := 10
  /-- The flag of a left shift is the lowest bit. -/
  shiftFlagFromLowBit : Bool := false
  /-- The font lies in memory. -/
  loadFont : Bool := true
  /-- Where random bytes start; without a seed anywhere. -/
  seed : Option Int := none
  /-- Steps are not reported. -/
  quiet : Bool := false
  tickLimit_pos : 0 < tickLimit := by decide
  pauseTick_nonneg : ∀ tick ∈ pauseTick, 0 ≤ tick := by simp
  stepsPerTimerTick_pos : 0 < stepsPerTimerTick := by decide

namespace Config

/-- The keys of the settings. -/
def knownKeys : List String :=
  ["tick_limit", "pause_tick", "steps_per_timer_tick", "shift_flag_lsb", "load_font", "rng_seed",
    "lenient_log"]

/-- An optional integer as a value. -/
def optionalInteger : Option Int → Value
  | some value => .integer value
  | none => .null

/-- A configuration written out: every key with its setting. -/
def toEntries (config : Config) : Entries :=
  [(.text "tick_limit", .integer config.tickLimit),
    (.text "pause_tick", optionalInteger config.pauseTick),
    (.text "steps_per_timer_tick", .integer config.stepsPerTimerTick),
    (.text "shift_flag_lsb", .boolean config.shiftFlagFromLowBit),
    (.text "load_font", .boolean config.loadFont),
    (.text "rng_seed", optionalInteger config.seed),
    (.text "lenient_log", .boolean config.quiet)]

/-- What the configuration says about building a machine. -/
def settings (config : Config) : Settings :=
  ⟨config.shiftFlagFromLowBit, config.loadFont, config.quiet⟩

/-- What the configuration says about a run. -/
def pace (config : Config) : Pace :=
  ⟨config.stepsPerTimerTick, config.pauseTick⟩

/-- The random stream of a configuration; without a seed it starts from `entropy`. -/
def random (config : Config) (entropy : Nat) : Twister :=
  Twister.ofSeed (config.seed.getD entropy)

end Config

end Chip8
