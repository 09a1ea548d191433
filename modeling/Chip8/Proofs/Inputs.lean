/-
# Which inputs of a headless run matter

A headless run is told how often the timers tick, which keys are held, where the random stream
starts and which bit is the flag of a left shift. Each of these matters only through the
operations that look at it: if a run does none of them, it comes to the same report with
another value, and it leaves the same memory, registers and return stack.

The four cases share one argument. The machines that two runs start from are alike but for one
input, no step on the way looks at it, and so the runs answer the same and leave machines that
are alike again. What remains for each case is how its operations are told from the others, and
that the start differs in no more than the one input.
-/

import Chip8.Proofs.Headless
import Chip8.Proofs.Run.Unread

namespace Chip8

open Machine (Alike Comparable)

/-! ## The steps of a headless run and what it leaves -/

/-- The machines at which a headless run takes a step. Where the program or a key is refused
there is no run, and no step. -/
def stepsOf (config : Config) (entropy : Nat) (program : List Byte) (keys : List Int) :
    List Machine :=
  if program.length ≤ programLimit ∧ ∀ key ∈ keys, 0 ≤ key ∧ key < 16 then
    (startOf config entropy program keys).trail config.tickLimit config.pace
  else []

/-- The machine that a headless run leaves. -/
def leftBy (config : Config) (entropy : Nat) (program : List Byte) (keys : List Int) : Machine :=
  ((startOf config entropy program keys).run config.tickLimit config.pace).machine

/-- Machines that agree in memory, registers, counter and return stack. -/
structure Machine.SameEnd (first second : Machine) : Prop where
  memory : second.memory = first.memory
  registers : second.registers = first.registers
  index : second.index = first.index
  counter : second.counter = first.counter
  stack : second.stack = first.stack

/-- Headless runs of a program do the same to two configurations, each with its keys. It does
not matter where a configuration is loaded from, nor where a stream without a seed starts. -/
structure SameHeadless (program : List Byte) (config other : Config) (keys more : List Int) :
    Prop where
  result : ∀ {parser : Parser} {directory elsewhere : Directory} {given changed : Option Entries}
    (entropy another : Nat), Config.load parser directory (Config.given given) = .ok config →
    Config.load parser elsewhere (Config.given changed) = .ok other →
    (runHeadless parser elsewhere another program changed more).result =
      (runHeadless parser directory entropy program given keys).result
  left : program.length ≤ programLimit → (∀ key ∈ keys, 0 ≤ key ∧ key < 16) →
    ∀ entropy another : Nat,
      (leftBy config entropy program keys).SameEnd (leftBy other another program more)

section Seeded

variable {config : Config} (seeded : config.seed ≠ none)

include seeded

/-- With a seed it does not matter where else the random stream might start. -/
theorem random_of_seeded (entropy other : Nat) : config.random other = config.random entropy :=
  Config.random_eq fun unseeded => absurd unseeded seeded

theorem startOf_of_seeded (entropy other : Nat) (program : List Byte) (keys : List Int) :
    startOf config other program keys = startOf config entropy program keys := by
  rw [startOf, startOf, random_of_seeded seeded entropy other]

theorem stepsOf_of_seeded (entropy other : Nat) (program : List Byte) (keys : List Int) :
    stepsOf config other program keys = stepsOf config entropy program keys := by
  rw [stepsOf, startOf_of_seeded seeded entropy other program keys, stepsOf]

end Seeded

section Pair

variable {config other : Config} {program : List Byte} {keys more : List Int}

/-- A report shows of a run its answer, the screen and the tick. -/
theorem result_runToReport_of_same {first second : Machine}
    (answer : (second.run other.tickLimit other.pace).result =
      (first.run config.tickLimit config.pace).result)
    (screen : (second.run other.tickLimit other.pace).machine.screen =
      (first.run config.tickLimit config.pace).machine.screen)
    (tick : (second.run other.tickLimit other.pace).machine.tick =
      (first.run config.tickLimit config.pace).machine.tick) :
    (second.runToReport other).result = (first.runToReport config).result := by
  rw [Machine.runToReport, Machine.runToReport]
  generalize first.run config.tickLimit config.pace = outcome at answer screen tick ⊢
  generalize second.run other.tickLimit other.pace = outcome' at answer screen tick ⊢
  rcases outcome with ⟨result, left, events⟩
  rcases outcome' with ⟨result', left', events'⟩
  simp only at answer screen tick
  subst answer
  cases result' with
  | ok ending => simp only [Machine.report, screen, tick]
  | error fault =>
    cases machineFault : fault.isMachineFault with
    | true => simp only [machineFault, Machine.report, screen, tick, if_true]
    | false => simp only [machineFault, Bool.false_eq_true, if_false]

/-- Headless runs give the same answer if the same is refused and otherwise the runs come to
the same answer with the same screen at the same tick. -/
theorem result_runHeadless_of_same {parser : Parser} {directory elsewhere : Directory}
    {given changed : Option Entries} {entropy another : Nat}
    (loaded : Config.load parser directory (Config.given given) = .ok config)
    (loaded_too : Config.load parser elsewhere (Config.given changed) = .ok other)
    (missing : firstMissing more = firstMissing keys)
    (same : program.length ≤ programLimit → (∀ key ∈ keys, 0 ≤ key ∧ key < 16) →
      let first := (startOf config entropy program keys).run config.tickLimit config.pace
      let second := (startOf other another program more).run other.tickLimit other.pace
      second.result = first.result ∧ second.machine.screen = first.machine.screen ∧
        second.machine.tick = first.machine.tick) :
    (runHeadless parser elsewhere another program changed more).result =
      (runHeadless parser directory entropy program given keys).result := by
  rcases Nat.lt_or_ge programLimit program.length with large | fits
  · rw [runHeadless_of_too_large loaded large, runHeadless_of_too_large loaded_too large]
  · cases first : firstMissing keys with
    | some key =>
      rw [runHeadless_of_missing loaded fits first,
        runHeadless_of_missing loaded_too fits (missing.trans first)]
    | none =>
      have real := firstMissing_eq_none_iff.mp first
      have real_too := firstMissing_eq_none_iff.mp (missing.trans first)
      obtain ⟨answer, screen, tick⟩ := same fits real
      rw [runHeadless_of_real loaded fits real, runHeadless_of_real loaded_too fits real_too]
      exact result_runToReport_of_same answer screen tick

/-- Headless runs that start alike but for an input, and take no step that looks at it, do the
same. -/
theorem sameHeadless_of_alike (input : Input) (not_memory : input ≠ .memory)
    (not_quiet : input ≠ .quiet) (not_note : input ≠ .note)
    (limit : other.tickLimit = config.tickLimit)
    (pause : other.pauseTick = config.pauseTick)
    (comparable : Comparable input config.stepsPerTimerTick other.stepsPerTimerTick)
    (missing : firstMissing more = firstMissing keys)
    (starts : ∀ entropy another : Nat,
      Alike input (startOf config entropy program keys) (startOf other another program more))
    (unread : ∀ entropy : Nat, ∀ before ∈ stepsOf config entropy program keys,
      ¬ before.Consults input) :
    SameHeadless program config other keys more := by
  have runs (fits : program.length ≤ programLimit) (real : ∀ key ∈ keys, 0 ≤ key ∧ key < 16)
      (entropy another : Nat) :
      ((startOf other another program more).run other.tickLimit other.pace).result =
          ((startOf config entropy program keys).run config.tickLimit config.pace).result ∧
        Alike input (leftBy config entropy program keys) (leftBy other another program more) := by
    have unread_here := unread entropy
    rw [stepsOf, if_pos ⟨fits, real⟩] at unread_here
    rw [leftBy, leftBy, limit]
    exact (starts entropy another).run not_memory not_quiet not_note pause comparable unread_here
  constructor
  · intro parser directory elsewhere given changed entropy another loaded loaded_too
    apply result_runHeadless_of_same loaded loaded_too missing
    intro fits real
    obtain ⟨answer, left⟩ := runs fits real entropy another
    exact ⟨answer, left.screen, left.tick⟩
  · intro fits real entropy another
    have left := (runs fits real entropy another).2
    exact ⟨left.memory not_memory, left.registers, left.index, left.counter, left.stack⟩

end Pair

/-! ## Starts that differ in one input -/

theorem Machine.Alike.load {input : Input} {first second : Machine}
    (alike : Alike input first second) (apart : input ≠ .memory) (program : List Byte) :
    Alike input (first.load program).machine (second.load program).machine := by
  apply alike.map fun machine => (machine.load program).machine
  intro machine
  rw [load_without machine input apart]
  exact without_without (machine.load program).machine input

theorem Machine.Alike.holding {input : Input} {first second : Machine}
    (alike : Alike input first second) (keys : List Int) :
    Alike input (first.holding keys) (second.holding keys) := by
  apply alike.map fun machine => machine.holding keys
  intro machine
  cases input with
  | keys => simp only [Machine.holding, without]
  | _ => rfl

theorem alike_holding (machine : Machine) (keys more : List Int) :
    Alike .keys (machine.holding keys) (machine.holding more) := by
  simp only [Alike, Machine.holding, Machine.without]

/-- To load no bytes into a machine at power-on changes nothing. -/
theorem startOf_eq (config : Config) (entropy : Nat) (program : List Byte) (keys : List Int) :
    startOf config entropy program keys =
      ((Machine.powerOn config.settings (config.random entropy)).load program).machine.holding
        keys := by
  rw [startOf, Machine.build]
  cases program with
  | nil => rfl
  | cons byte rest => rfl

/-- Machines that are alike at power-on are alike with a program and held keys. -/
theorem alike_startOf {input : Input} (apart : input ≠ .memory) {config other : Config}
    {entropy another : Nat}
    (powered : Alike input (Machine.powerOn config.settings (config.random entropy))
      (Machine.powerOn other.settings (other.random another)))
    (program : List Byte) (keys : List Int) :
    Alike input (startOf config entropy program keys) (startOf other another program keys) := by
  rw [startOf_eq, startOf_eq]
  exact (powered.load apart program).holding keys

theorem alike_powerOn_random (settings : Settings) (random other : Twister) :
    Alike .random (Machine.powerOn settings random) (Machine.powerOn settings other) :=
  rfl

theorem alike_powerOn_shiftFlag (settings : Settings) (fromLowBit : Bool) (random : Twister) :
    Alike .shiftFlag (Machine.powerOn settings random)
      (Machine.powerOn { settings with shiftFlagFromLowBit := fromLowBit } random) :=
  rfl

theorem alike_startOf_seed (config : Config) (seed : Option Int) (entropy another : Nat)
    (program : List Byte) (keys : List Int) :
    Alike .random (startOf config entropy program keys)
      (startOf { config with seed := seed } another program keys) := by
  apply alike_startOf (by decide)
  have same : Config.settings { config with seed := seed } = config.settings := rfl
  rw [same]
  apply alike_powerOn_random config.settings

theorem alike_startOf_shiftFlag (config : Config) (fromLowBit : Bool) (entropy : Nat)
    (program : List Byte) (keys : List Int) :
    Alike .shiftFlag (startOf config entropy program keys)
      (startOf { config with shiftFlagFromLowBit := fromLowBit } entropy program keys) := by
  apply alike_startOf (by decide)
  have same : Config.random { config with shiftFlagFromLowBit := fromLowBit } entropy =
      config.random entropy := rfl
  rw [same]
  apply alike_powerOn_shiftFlag config.settings

/-! ## Inputs and the operations that look at them -/

section Inputs

variable {config : Config} (seeded : config.seed ≠ none) {program : List Byte} {keys : List Int}
  (entropy : Nat)

include seeded

/-- With a seed it is enough to know what the steps look at for one start of a stream without
one. -/
theorem unread_everywhere {input : Input}
    (unread : ∀ before ∈ stepsOf config entropy program keys, ¬ before.Consults input)
    (another : Nat) : ∀ before ∈ stepsOf config another program keys, ¬ before.Consults input := by
  rw [stepsOf_of_seeded seeded entropy another program keys]
  exact unread

theorem sameHeadless_of_other_ratio
    (unread : ∀ before ∈ stepsOf config entropy program keys, ¬ before.Next .readDelay)
    {ratio : Int} (positive : 0 < ratio) :
    SameHeadless program config
      { config with stepsPerTimerTick := ratio, stepsPerTimerTick_pos := positive } keys keys := by
  have comparable : Comparable .timers config.stepsPerTimerTick ratio :=
    .inr ⟨rfl, config.nonzero_pace, Int.ne_of_gt positive⟩
  have starts (entropy another : Nat) :
      Alike .timers (startOf config entropy program keys)
        (startOf config another program keys) := by
    rw [startOf_of_seeded seeded entropy another program keys]
    exact .refl .timers (startOf config entropy program keys)
  refine sameHeadless_of_alike .timers nofun nofun nofun rfl rfl comparable rfl starts
    (unread_everywhere seeded entropy ?_)
  intro before member
  rw [Machine.consults_timers_iff]
  exact unread before member

theorem sameHeadless_of_other_keys
    (unread : ∀ before ∈ stepsOf config entropy program keys,
      ¬ before.Next .skipIfHeld ∧ ¬ before.Next .skipUnlessHeld ∧ ¬ before.Next .awaitKey)
    {more : List Int} (missing : firstMissing more = firstMissing keys) :
    SameHeadless program config config keys more := by
  have starts (entropy another : Nat) :
      Alike .keys (startOf config entropy program keys) (startOf config another program more) := by
    rw [startOf_of_seeded seeded entropy another program more]
    exact alike_holding _ keys more
  refine sameHeadless_of_alike .keys nofun nofun nofun rfl rfl (.inl rfl) missing starts
    (unread_everywhere seeded entropy ?_)
  intro before member
  obtain ⟨not_if, not_unless, not_await⟩ := unread before member
  rw [Machine.consults_keys_iff]
  rintro (asks | asks | asks)
  · exact not_if asks
  · exact not_unless asks
  · exact not_await asks

theorem sameHeadless_of_other_seed
    (unread : ∀ before ∈ stepsOf config entropy program keys, ¬ before.Next .random)
    (seed : Option Int) :
    SameHeadless program config { config with seed := seed } keys keys := by
  have starts (entropy another : Nat) :
      Alike .random (startOf config entropy program keys)
        (startOf { config with seed := seed } another program keys) :=
    alike_startOf_seed config seed entropy another program keys
  refine sameHeadless_of_alike .random nofun nofun nofun rfl rfl (.inl rfl) rfl starts
    (unread_everywhere seeded entropy ?_)
  intro before member
  rw [Machine.consults_random_iff]
  exact unread before member

theorem sameHeadless_of_other_shiftFlag
    (unread : ∀ before ∈ stepsOf config entropy program keys, before.Next .shiftLeft →
      let operand := (before.registers.get before.nextWord.x).toNat
      operand.testBit 0 = operand.testBit 7) (fromLowBit : Bool) :
    SameHeadless program config { config with shiftFlagFromLowBit := fromLowBit } keys keys := by
  have starts (entropy another : Nat) :
      Alike .shiftFlag (startOf config entropy program keys)
        (startOf { config with shiftFlagFromLowBit := fromLowBit } another program keys) := by
    rw [startOf_of_seeded seeded another entropy program keys]
    exact alike_startOf_shiftFlag config fromLowBit another program keys
  refine sameHeadless_of_alike .shiftFlag nofun nofun nofun rfl rfl (.inl rfl) rfl starts
    (unread_everywhere seeded entropy ?_)
  intro before member
  rw [Machine.consults_shiftFlag_iff]
  rintro ⟨shifts, apart⟩
  exact apart (unread before member shifts)

end Inputs

/-- An input of a headless run matters only through the operations that look at it. A run that
never reads the delay timer does the same with any other ratio, one that never asks for a key
with any other keys held, one that never draws a byte from any other seed, and one that shifts
left only where both bits are the same with either bit for the flag. -/
theorem inputs_matter_through_readers (config : Config) (seeded : config.seed ≠ none)
    (program : List Byte) (keys : List Int) (entropy : Nat) :
    let steps := stepsOf config entropy program keys
    ((∀ before ∈ steps, ¬ before.Next .readDelay) → ∀ (ratio : Int) (positive : 0 < ratio),
      SameHeadless program config
        { config with stepsPerTimerTick := ratio, stepsPerTimerTick_pos := positive } keys keys) ∧
    ((∀ before ∈ steps, ¬ before.Next .skipIfHeld ∧ ¬ before.Next .skipUnlessHeld ∧
        ¬ before.Next .awaitKey) →
      (∀ key ∈ keys, 0 ≤ key ∧ key < 16) → ∀ more : List Int, (∀ key ∈ more, 0 ≤ key ∧ key < 16) →
        SameHeadless program config config keys more) ∧
    ((∀ before ∈ steps, ¬ before.Next .random) → ∀ seed : Option Int,
      SameHeadless program config { config with seed := seed } keys keys) ∧
    ((∀ before ∈ steps, before.Next .shiftLeft →
        let operand := (before.registers.get before.nextWord.x).toNat
        operand.testBit 0 = operand.testBit 7) → ∀ fromLowBit : Bool,
      SameHeadless program config { config with shiftFlagFromLowBit := fromLowBit } keys keys) := by
  intro steps
  refine ⟨?_, ?_, ?_, ?_⟩
  · intro unread ratio positive
    exact sameHeadless_of_other_ratio seeded entropy unread positive
  · intro unread real more real_more
    have missing : firstMissing more = firstMissing keys :=
      (firstMissing_eq_none_iff.mpr real_more).trans (firstMissing_eq_none_iff.mpr real).symm
    exact sameHeadless_of_other_keys seeded entropy unread missing
  · intro unread seed
    exact sameHeadless_of_other_seed seeded entropy unread seed
  · intro unread fromLowBit
    exact sameHeadless_of_other_shiftFlag seeded entropy unread fromLowBit

/-- A program that shifts a register with both bits set and then halts does the same with
another ratio, with other keys, from another seed or from none, and with the other bit. -/
theorem inputs_matter_through_readers_at_left_shift :
    let config : Config := { seed := some 7 }
    let program : List Byte := [0x60, 0x81, 0x80, 0x0E, 0x12, 0x04]
    (stepsOf config 0 program [3]).length = 3 ∧
    SameHeadless program config
      { config with stepsPerTimerTick := 1, stepsPerTimerTick_pos := by decide } [3] [3] ∧
    SameHeadless program config config [3] [0, 15] ∧
    SameHeadless program config { config with seed := none } [3] [3] ∧
    SameHeadless program config { config with shiftFlagFromLowBit := true } [3] [3] := by
  intro config program
  have steps : (stepsOf config 0 program [3]).length = 3 ∧
      ∀ before ∈ stepsOf config 0 program [3],
        ¬ before.Next .readDelay ∧
        (¬ before.Next .skipIfHeld ∧ ¬ before.Next .skipUnlessHeld ∧ ¬ before.Next .awaitKey) ∧
        ¬ before.Next .random ∧
        (before.Next .shiftLeft →
          let operand := (before.registers.get before.nextWord.x).toNat
          operand.testBit 0 = operand.testBit 7) := by
    decide +kernel
  obtain ⟨three, unread⟩ := steps
  obtain ⟨ratio, held, seed, bit⟩ :=
    inputs_matter_through_readers config nofun program [3] 0
  refine ⟨three, ratio (fun before member => (unread before member).1) 1 (by decide),
    held (fun before member => (unread before member).2.1) (by decide) [0, 15] (by decide),
    seed (fun before member => (unread before member).2.2.1) none,
    bit (fun before member => (unread before member).2.2.2) true⟩

end Chip8
