/-
# What comes of a headless run

A headless run always comes to one of a few ends. The configuration may be refused, then the
program for its size, then the first key that does not exist, in this order. Otherwise there
is a report, unless the run has raised a tick that cannot be written: every other fault that it
can meet is one of the machine, since a checked configuration has no ratio of zero. So the run
ends in every case and nothing else comes of it. A limit that can be written keeps all ticks
below it such that they can be, and so does a machine that writes none.

Which keys are held is a set: after holding them one by one, the keypad shows the numbers that
were told, in whatever order and however often. With a seed, the random stream does not
depend on where else it might start from, and then equal sets of keys give equal reports.
-/

import Chip8.Proofs.Config.TextKeys
import Chip8.Proofs.Display.Picture
import Chip8.Proofs.Faults
import Chip8.Proofs.Machine.Host
import Chip8.Proofs.Machine.Quiet
import Chip8.Proofs.Raw.Headless
import Chip8.Proofs.Reset
import Chip8.Proofs.Run.Outcome
import Chip8.Yaml.Document

namespace Chip8

/-! ## The screen as text -/

/-- A text is a picture: 32 lines of 64 characters, each lit or dark. -/
def IsPicture (text : String) : Prop :=
  ∃ lines : List String, text = "\n".intercalate lines ∧ lines.length = 32 ∧
    ∀ line ∈ lines, line.length = 64 ∧ ∀ char ∈ line.toList, char = '#' ∨ char = '.'

theorem isPicture_render (screen : Display 64 32) : IsPicture (screen.render "#" ".") := by
  have texts : PixelTexts "#" "." 1 := by
    constructor
    all_goals decide
  rw [Display.render]
  refine ⟨screen.pixels.toList.map fun strip => Display.renderRow "#" "." strip.toList, rfl, ?_, ?_⟩
  · rw [List.length_map, Vector.length_toList]
    rfl
  · intro line drawn
    obtain ⟨strip, _, rfl⟩ := List.mem_map.mp drawn
    constructor
    · rw [← String.length_toList, Display.toList_renderRow,
        length_flatMap_of_sized texts.length_pixelText, Vector.length_toList]
      rfl
    · intro char shown
      rw [Display.toList_renderRow] at shown
      obtain ⟨lit, _, inside⟩ := List.mem_flatMap.mp shown
      cases lit with
      | true => exact .inl (List.mem_singleton.mp inside)
      | false => exact .inr (List.mem_singleton.mp inside)

/-! ## Final states -/

namespace FinalState

theorem name_mem (state : FinalState) :
    state.name ∈ ["stopped", "paused", "waiting", "halted", "fault"] := by
  cases state with
  | fault => decide
  | ended ending =>
    cases ending with
    | _ => decide

/-- Final states are told apart by their names. -/
theorem eq_of_name {state : FinalState} (other : FinalState) (same : state.name = other.name) :
    state = other := by
  revert same
  rcases state with (_ | _ | _ | _) | _
  all_goals
    rcases other with (_ | _ | _ | _) | _
    all_goals decide

/-- The final state that is reported for the answer of a run. -/
def ofAnswer : Except Fault RunEnd → FinalState
  | .ok ending => .ended ending
  | .error _ => .fault

theorem ofAnswer_eq_ended {answer : Except Fault RunEnd} {ending : RunEnd}
    (same : ofAnswer answer = .ended ending) : answer = .ok ending := by
  cases answer with
  | error fault => cases same
  | ok ended =>
    cases same
    rfl

end FinalState

/-- A report as a configuration allows it. -/
structure RunReport.Regular (config : Config) (report : RunReport) : Prop where
  ticks_nonneg : 0 ≤ report.ticks
  ticks_le : report.ticks ≤ config.tickLimit
  named : report.state.name ∈ ["stopped", "paused", "waiting", "halted", "fault"]
  stopped : report.state.name = "stopped" → report.ticks = config.tickLimit
  paused : report.state.name = "paused" → config.pauseTick = some report.ticks
  picture : IsPicture report.screen

theorem Config.nonzero_pace (config : Config) : config.pace.stepsPerTimerTick ≠ 0 :=
  Int.ne_of_gt config.stepsPerTimerTick_pos

/-! ## Keys held from the start -/

/-- The first number among these that is no key. -/
def firstMissing (keys : List Int) : Option Int :=
  keys.find? fun key => !decide (0 ≤ key ∧ key < 16)

theorem firstMissing_eq_none_iff {keys : List Int} :
    firstMissing keys = none ↔ ∀ key ∈ keys, 0 ≤ key ∧ key < 16 := by
  simp only [firstMissing, List.find?_eq_none, Bool.not_eq_true', decide_eq_false_iff_not,
    not_not]

namespace Keypad

/-- The keypad with more keys held. -/
def holding (keypad : Keypad) (keys : List Int) : Keypad :=
  Vector.ofFn fun key => keypad.get key || decide ((key.val : Int) ∈ keys)

theorem get_holding (keypad : Keypad) (keys : List Int) {key : Nat} (inside : key < 16) :
    Vector.get (keypad.holding keys) ⟨key, inside⟩ =
      (keypad.get ⟨key, inside⟩ || decide ((key : Int) ∈ keys)) :=
  Vector.getElem_ofFn inside

theorem holding_nil (keypad : Keypad) : keypad.holding [] = keypad := by
  ext key inside
  refine (get_holding keypad [] inside).trans ?_
  rw [decide_eq_false List.not_mem_nil, Bool.or_false]
  rfl

/-- Keys that are pressed one after another are held together. -/
theorem holding_cons (keypad : Keypad) {place : Nat} (real : place < 16) (rest : List Int) :
    holding (keypad.set place true real) rest = keypad.holding (place :: rest) := by
  ext other inside
  refine (get_holding _ rest inside).trans (.trans ?_ (get_holding keypad _ inside).symm)
  simp only [List.mem_cons]
  by_cases same : place = other
  · subst same
    have held : Vector.get (keypad.set place true real) ⟨place, inside⟩ = true :=
      Vector.getElem_set_self real
    simp [held]
  · have kept : Vector.get (keypad.set place true real) ⟨other, inside⟩ =
        Vector.get keypad ⟨other, inside⟩ := Vector.getElem_set_ne real inside same
    have apart : ¬ ((other : Int) = place) := fun equal => same (Int.ofNat_inj.mp equal).symm
    simp only [kept, apart, false_or]

/-- Only the set of the keys matters. -/
theorem holding_of_same (keypad : Keypad) {keys more : List Int}
    (same : ∀ key, key ∈ more ↔ key ∈ keys) : keypad.holding more = keypad.holding keys := by
  simp only [holding, same]

end Keypad

namespace Machine

/-- The machine with more keys held. -/
def holding (machine : Machine) (keys : List Int) : Machine :=
  { machine with keypad := machine.keypad.holding keys }

variable {machine : Machine} {keys : List Int}

/-- Keys that all exist are all held afterwards, and nothing else changes. -/
theorem holdKeys_of_real (machine : Machine) (real : ∀ key ∈ keys, 0 ≤ key ∧ key < 16) :
    machine.holdKeys keys = .ok (machine.holding keys) := by
  induction keys generalizing machine with
  | nil => rw [holding, Keypad.holding_nil, holdKeys]
  | cons key rest ih =>
    have here := real key List.mem_cons_self
    have later := ih { machine with keypad := machine.keypad.set key.toNat true }
      fun other member => real other (List.mem_cons_of_mem key member)
    rw [holdKeys, setKey, Keypad.put, dif_pos here]
    rw [holding, Keypad.holding_cons, Int.toNat_of_nonneg here.1] at later
    exact later

/-- The first key that does not exist is told. -/
theorem holdKeys_of_missing (machine : Machine) {key : Int}
    (missing : firstMissing keys = some key) : machine.holdKeys keys = .error (.noSuchKey key) := by
  induction keys generalizing machine with
  | nil => cases missing
  | cons first rest ih =>
    rw [firstMissing, List.find?_cons] at missing
    rw [holdKeys, setKey, Keypad.put]
    by_cases real : 0 ≤ first ∧ first < 16
    · rw [dif_pos real]
      rw [decide_eq_true real] at missing
      exact ih _ missing
    · rw [dif_neg real]
      rw [decide_eq_false real] at missing
      cases missing
      rfl

theorem WellFormed.holding (wellFormed : machine.WellFormed) (keys : List Int) :
    (machine.holding keys).WellFormed := by
  rw [Machine.holding]
  exact ⟨wellFormed.depth_le, wellFormed.program_le⟩

/-- A run to a configuration that does not fail for want of a report fails for the machine. -/
theorem Loop.isMachineFault_of_told {limit : Int} {pace : Pace} {steps : Nat} {left : Machine}
    {answer : Except Fault RunEnd} (loop : Loop limit pace machine steps answer left)
    (told : ∀ value, answer ≠ .error (.unwritable value)) {fault : Fault}
    (failed : answer = .error fault) : fault.isMachineFault = true := by
  cases other : fault.isMachineFault with
  | true => rfl
  | false =>
    obtain ⟨_, rfl, _⟩ := loop.unreported_of_error failed other
    exact absurd failed (told _)

/-! ## Reports -/

/-- A loop that starts at tick zero leaves what a configuration allows to be reported. -/
theorem Loop.regular {config : Config} {steps : Nat} {answer : Except Fault RunEnd}
    {left : Machine} (loop : Loop config.tickLimit config.pace machine steps answer left)
    (told : ∀ value, answer ≠ .error (.unwritable value)) (start : machine.tick = 0) :
    RunReport.Regular config (left.report (FinalState.ofAnswer answer)) := by
  have counted := loop.tick
  have bounded := loop.tick_le
  have positive := config.tickLimit_pos
  rw [unreportedSteps_of_told told] at counted
  rw [start] at counted bounded
  refine ⟨?_, ?_, FinalState.name_mem _, ?_, ?_, isPicture_render left.screen⟩
  · show 0 ≤ left.tick
    omega
  · show left.tick ≤ config.tickLimit
    omega
  · intro named
    have stopped := FinalState.ofAnswer_eq_ended (FinalState.eq_of_name (.ended .stopped) named)
    have full := ((loop.stopped_iff config.nonzero_pace).mp stopped).1
    rw [start] at full
    show left.tick = config.tickLimit
    omega
  · intro named
    have paused := FinalState.ofAnswer_eq_ended (FinalState.eq_of_name (.ended .paused) named)
    exact (loop.machine_of_paused paused).1

/-- The report of a run tells its answer and the machine it leaves. -/
theorem runToReport_of_told {config : Config}
    (told : (machine.run config.tickLimit config.pace).IsTold) :
    (machine.runToReport config).result =
      let outcome := machine.run config.tickLimit config.pace
      .ok (outcome.machine.report (FinalState.ofAnswer outcome.result)) := by
  obtain ⟨steps, loop⟩ := loop_run config.tickLimit config.pace config.nonzero_pace machine
  rw [runToReport]
  rcases ran : machine.run config.tickLimit config.pace with ⟨fault | ending, left, events⟩
  · rw [ran] at loop told
    simp only [loop.isMachineFault_of_told told rfl, ↓reduceIte]
    rfl
  · rfl

theorem runToReport_of_unwritable {config : Config} {value : Int}
    (failed : (machine.run config.tickLimit config.pace).result = .error (.unwritable value)) :
    (machine.runToReport config).result = .error (.machine (.unwritable value)) := by
  rw [runToReport]
  rcases ran : machine.run config.tickLimit config.pace with ⟨fault | ending, left, events⟩
  · rw [ran] at failed
    cases failed
    rfl
  · rw [ran] at failed
    cases failed

theorem tick_build (settings : Settings) (random : Twister) (program : List Byte) :
    (build settings random program).machine.tick = 0 := by
  rw [build]
  split
  · rfl
  · exact congrArg tick (machine_load (powerOn settings random) program)

theorem settings_build (settings : Settings) (random : Twister) (program : List Byte) :
    (build settings random program).machine.settings = settings := by
  rw [build]
  split
  · rfl
  · exact congrArg Machine.settings (machine_load (powerOn settings random) program)

theorem build_of_too_large {settings : Settings} {random : Twister} {program : List Byte}
    (large : programLimit < program.length) :
    (build settings random program).result = .error (.programTooLarge program.length) := by
  have filled : ¬ program.isEmpty = true := by
    rw [List.isEmpty_iff]
    rintro rfl
    exact absurd large (Nat.not_lt_zero programLimit)
  rw [build, if_neg filled, load, if_neg (Nat.not_le.mpr large)]

end Machine

/-! ## Headless runs -/

/-- A new machine with keys held. -/
def startOf (config : Config) (entropy : Nat) (program : List Byte) (keys : List Int) : Machine :=
  (Machine.build config.settings (config.random entropy) program).machine.holding keys

theorem tick_startOf (config : Config) (entropy : Nat) (program : List Byte) (keys : List Int) :
    (startOf config entropy program keys).tick = 0 := by
  rw [startOf, Machine.holding]
  exact Machine.tick_build config.settings (config.random entropy) program

/-- The run of a new machine with keys held, to the limit of a configuration and at its pace. -/
def runOf (config : Config) (entropy : Nat) (program : List Byte) (keys : List Int) :
    Outcome RunEnd :=
  (startOf config entropy program keys).run config.tickLimit config.pace

/-- What a headless run comes to, once its configuration is loaded. -/
inductive HeadlessOutcome (config : Config) (entropy : Nat) (program : List Byte)
    (keys : List Int) : Except Refusal RunReport → Prop
  | tooLarge (large : programLimit < program.length) :
    HeadlessOutcome config entropy program keys
      (.error (.machine (.programTooLarge program.length)))
  | missing {key : Int} (fits : program.length ≤ programLimit)
    (first : firstMissing keys = some key) :
    HeadlessOutcome config entropy program keys
      (.error (.machine (.noSuchKey key)))
  | unreported {value : Int} (fits : program.length ≤ programLimit)
    (real : ∀ key ∈ keys, 0 ≤ key ∧ key < 16)
    (silent : (runOf config entropy program keys).result = .error (.unwritable value)) :
    HeadlessOutcome config entropy program keys (.error (.machine (.unwritable value)))
  | reported (fits : program.length ≤ programLimit) (real : ∀ key ∈ keys, 0 ≤ key ∧ key < 16)
    (told : (runOf config entropy program keys).IsTold) :
    HeadlessOutcome config entropy program keys
      (.ok ((runOf config entropy program keys).machine.report
        (FinalState.ofAnswer (runOf config entropy program keys).result)))

/-- A run that cannot report a step has raised the tick to one that cannot be written, and so its
limit cannot be either. -/
theorem wide_of_runOf {config : Config} {entropy : Nat} {program : List Byte} {keys : List Int}
    {tick : Int}
    (silent : (runOf config entropy program keys).result = .error (.unwritable tick)) :
    config.quiet = false ∧ ¬ IsWritable tick ∧ ¬ IsWritable config.tickLimit ∧ 0 < tick ∧
      tick ≤ config.tickLimit := by
  have start := tick_startOf config entropy program keys
  have settings : (startOf config entropy program keys).settings = config.settings :=
    Machine.settings_build config.settings (config.random entropy) program
  have positive := config.tickLimit_pos
  obtain ⟨steps, loop⟩ := Machine.loop_run config.tickLimit config.pace config.nonzero_pace
    (startOf config entropy program keys)
  obtain ⟨_, named, counted, loud, wide⟩ := loop.unreported_of_error silent rfl
  have bounded := loop.tick_le
  cases named
  rw [start] at counted bounded
  rw [settings] at loud
  refine ⟨loud, wide, fun writable => ?_, by omega, by omega⟩
  exact wide (isWritable_zero.between writable (by omega) (by omega))

namespace HeadlessOutcome

variable {config : Config} {entropy : Nat} {program : List Byte} {keys : List Int}
  {result : Except Refusal RunReport} (outcome : HeadlessOutcome config entropy program keys result)

include outcome

theorem ne_config {failure : Config.Failure} : result ≠ .error (.config failure) := by
  rintro rfl
  cases outcome

theorem tooLarge_iff {size : Nat} : result = .error (.machine (.programTooLarge size)) ↔
    programLimit < program.length ∧ size = program.length := by
  constructor
  · rintro rfl
    cases outcome with
    | tooLarge large => exact ⟨large, rfl⟩
  · rintro ⟨large, rfl⟩
    cases outcome with
    | tooLarge => rfl
    | missing fits | unreported fits | reported fits => exact absurd large (Nat.not_lt.mpr fits)

theorem missing_iff {key : Int} : result = .error (.machine (.noSuchKey key)) ↔
    program.length ≤ programLimit ∧ firstMissing keys = some key := by
  constructor
  · rintro rfl
    cases outcome with
    | missing fits first => exact ⟨fits, first⟩
  · rintro ⟨fits, first⟩
    cases outcome with
    | tooLarge large => exact absurd large (Nat.not_lt.mpr fits)
    | missing _ also =>
      cases first.symm.trans also
      rfl
    | unreported _ real | reported _ real =>
      cases first.symm.trans (firstMissing_eq_none_iff.mpr real)

theorem unreported_iff {value : Int} : result = .error (.machine (.unwritable value)) ↔
    program.length ≤ programLimit ∧ (∀ key ∈ keys, 0 ≤ key ∧ key < 16) ∧
      (runOf config entropy program keys).result = .error (.unwritable value) := by
  constructor
  · rintro rfl
    cases outcome with
    | unreported fits real silent => exact ⟨fits, real, silent⟩
  · rintro ⟨fits, real, silent⟩
    cases outcome with
    | tooLarge large => exact absurd large (Nat.not_lt.mpr fits)
    | missing _ first => cases first.symm.trans (firstMissing_eq_none_iff.mpr real)
    | unreported _ _ also =>
      cases silent.symm.trans also
      rfl
    | reported _ _ told => exact absurd silent (told value)

theorem fault_cases {fault : Fault} (refused : result = .error (.machine fault)) :
    fault = .programTooLarge program.length ∨ (∃ key, fault = .noSuchKey key) ∨
      ∃ value, fault = .unwritable value := by
  subst refused
  cases outcome with
  | tooLarge => exact .inl rfl
  | missing => exact .inr (.inl ⟨_, rfl⟩)
  | unreported => exact .inr (.inr ⟨_, rfl⟩)

theorem reported_iff : (∃ report, result = .ok report) ↔
    program.length ≤ programLimit ∧ (∀ key ∈ keys, 0 ≤ key ∧ key < 16) ∧
      (runOf config entropy program keys).IsTold := by
  constructor
  · rintro ⟨report, rfl⟩
    cases outcome with
    | reported fits real told => exact ⟨fits, real, told⟩
  · rintro ⟨fits, real, told⟩
    cases outcome with
    | tooLarge large => exact absurd large (Nat.not_lt.mpr fits)
    | missing _ first => cases first.symm.trans (firstMissing_eq_none_iff.mpr real)
    | unreported _ _ silent => exact absurd silent (told _)
    | reported => exact ⟨_, rfl⟩

theorem regular {report : RunReport} (reported : result = .ok report) :
    RunReport.Regular config report ∧ ∃ steps answer left,
      Machine.Loop config.tickLimit config.pace (startOf config entropy program keys) steps
        answer left ∧
      report = left.report (FinalState.ofAnswer answer) := by
  subst reported
  cases outcome with
  | reported _ _ told =>
    have start := tick_startOf config entropy program keys
    obtain ⟨steps, loop⟩ := Machine.loop_run config.tickLimit config.pace config.nonzero_pace
      (startOf config entropy program keys)
    exact ⟨loop.regular told start, _, _, _, loop, rfl⟩

end HeadlessOutcome

theorem Machine.buildGiven_of_loaded {parser : Parser} {directory : Directory}
    {given : Option Entries} {config : Config}
    (loaded : Config.load parser directory (Config.given given) = .ok config)
    (entropy : Nat) (program : List Byte) :
    Machine.buildGiven parser directory entropy given program =
      .ok (Machine.build config.settings (config.random entropy) program) := by
  rw [Machine.buildGiven, loaded]

/-- The random stream of a configuration depends on the entropy only without a seed. -/
theorem Config.random_eq {config : Config} {entropy other : Nat}
    (same : config.seed = none → other = entropy) :
    config.random other = config.random entropy := by
  rw [Config.random, Config.random]
  cases seed : config.seed with
  | none => rw [same seed]
  | some seed => rfl

/-- A headless run to a configuration that nobody loads again. -/
def runOnce (config : Config) (entropy : Nat) (program : List Byte) (keys : List Int) :
    HeadlessRun :=
  match Machine.build config.settings (config.random entropy) program with
  | ⟨.error fault, _, events⟩ => ⟨.error (.machine fault), events⟩
  | ⟨.ok _, built, events⟩ =>
    let run := built.runHolding config keys
    ⟨run.result, events ++ run.events⟩

section Run

variable {parser : Parser} {directory : Directory} {entropy : Nat} {program : List Byte}
  {given : Option Entries} {keys : List Int} {config : Config}

theorem runHeadless_of_refused {failure : Config.Failure}
    (refused : Config.load parser directory (Config.given given) = .error failure) :
    runHeadless parser directory entropy program given keys = ⟨.error (.config failure), []⟩ := by
  rw [runHeadless, refused]

variable (loaded : Config.load parser directory (Config.given given) = .ok config)

include loaded

/-- What is loaded is loaded once more, to no other end. -/
theorem runHeadless_eq_runOnce :
    runHeadless parser directory entropy program given keys =
      runOnce config entropy program keys := by
  have again := Config.load_given_toEntries parser directory config
  rw [runHeadless, loaded]
  simp only [Machine.buildGiven_of_loaded again]
  rw [runOnce]
  rcases Machine.build config.settings (config.random entropy) program with ⟨_ | _, _, _⟩
  · rfl
  · rfl

theorem runHeadless_of_loaded :
    (runHeadless parser directory entropy program given keys).result =
      let built := Machine.build config.settings (config.random entropy) program
      match built.result with
      | .error fault => .error (.machine fault)
      | .ok _ => (built.machine.runHolding config keys).result := by
  rw [runHeadless_eq_runOnce loaded, runOnce]
  rcases Machine.build config.settings (config.random entropy) program with ⟨_ | _, _, _⟩
  · rfl
  · rfl

theorem runHeadless_of_too_large (large : programLimit < program.length) :
    (runHeadless parser directory entropy program given keys).result =
      .error (.machine (.programTooLarge program.length)) := by
  rw [runHeadless_of_loaded loaded]
  simp only [Machine.build_of_too_large large]

section Fits

variable (fits : program.length ≤ programLimit)

include fits

theorem runHeadless_of_missing {key : Int} (missing : firstMissing keys = some key) :
    (runHeadless parser directory entropy program given keys).result =
      .error (.machine (.noSuchKey key)) := by
  rw [runHeadless_of_loaded loaded]
  simp only [Machine.build_ok_iff.mpr fits, Machine.runHolding,
    Machine.holdKeys_of_missing _ missing]

section Real

variable (real : ∀ key ∈ keys, 0 ≤ key ∧ key < 16)

include real

theorem runHeadless_of_real :
    (runHeadless parser directory entropy program given keys).result =
      ((startOf config entropy program keys).runToReport config).result := by
  have held := Machine.holdKeys_of_real
    (Machine.build config.settings (config.random entropy) program).machine real
  rw [runHeadless_of_loaded loaded]
  simp only [Machine.build_ok_iff.mpr fits, Machine.runHolding, held]
  rfl

theorem runHeadless_of_told (told : (runOf config entropy program keys).IsTold) :
    (runHeadless parser directory entropy program given keys).result =
      .ok ((runOf config entropy program keys).machine.report
        (FinalState.ofAnswer (runOf config entropy program keys).result)) :=
  (runHeadless_of_real loaded fits real).trans (Machine.runToReport_of_told told)

theorem runHeadless_of_unwritable {value : Int}
    (silent : (runOf config entropy program keys).result = .error (.unwritable value)) :
    (runHeadless parser directory entropy program given keys).result =
      .error (.machine (.unwritable value)) :=
  (runHeadless_of_real loaded fits real).trans (Machine.runToReport_of_unwritable silent)

end Real

end Fits

theorem headlessOutcome :
    HeadlessOutcome config entropy program keys
      (runHeadless parser directory entropy program given keys).result := by
  rcases Nat.lt_or_ge programLimit program.length with large | fits
  · rw [runHeadless_of_too_large loaded large]
    exact .tooLarge large
  · cases first : firstMissing keys with
    | some key =>
      rw [runHeadless_of_missing loaded fits first]
      exact .missing fits first
    | none =>
      have real := firstMissing_eq_none_iff.mp first
      by_cases told : (runOf config entropy program keys).IsTold
      · rw [runHeadless_of_told loaded fits real told]
        exact .reported fits real told
      · obtain ⟨value, silent⟩ : ∃ value,
            (runOf config entropy program keys).result = .error (.unwritable value) := by
          simpa [Outcome.IsTold] using told
        rw [runHeadless_of_unwritable loaded fits real silent]
        exact .unreported fits real silent

/-- With a seed, a report depends on the keys by their set, and not on where else the random
stream might start from. -/
theorem runHeadless_of_same (seeded : config.seed ≠ none) {report : RunReport}
    (reported : (runHeadless parser directory entropy program given keys).result = .ok report)
    (other : Nat) {more : List Int} (same : ∀ key, key ∈ more ↔ key ∈ keys) :
    (runHeadless parser directory other program given more).result = .ok report := by
  have outcome : HeadlessOutcome config entropy program keys _ := headlessOutcome loaded
  rw [reported] at outcome
  cases outcome with
  | reported fits real =>
    have real_more : ∀ key ∈ more, 0 ≤ key ∧ key < 16 :=
      fun key member => real key ((same key).mp member)
    have stream : config.random other = config.random entropy :=
      Config.random_eq fun unseeded => absurd unseeded seeded
    have start : startOf config other program more = startOf config entropy program keys := by
      simp only [startOf, stream, Machine.holding, Keypad.holding_of_same _ same]
    rw [runHeadless_of_real loaded fits real_more, start]
    exact (runHeadless_of_real loaded fits real).symm.trans reported

end Run

/-! ## Messages -/

theorem telling_of_isWritable {value : Int} (writable : IsWritable value)
    (text : String → String) : telling value text = text (Numeral.decimal 1 value) := by
  rw [telling, decimalWithinLimit?, if_pos writable]

theorem telling_of_not_isWritable {value : Int} (wide : ¬ IsWritable value)
    (text : String → String) : telling value text = tooManyDigits := by
  rw [telling, decimalWithinLimit?, if_neg wide]

/-- A key that does not exist is told in the message, as far as it can be written. -/
theorem message_noSuchKey (key : Int) :
    (IsWritable key → (Refusal.machine (.noSuchKey key)).message =
      "key must be in 0..15, got " ++ Numeral.decimal 1 key) ∧
    (¬ IsWritable key → (Refusal.machine (.noSuchKey key)).message = tooManyDigits) := by
  unfold Refusal.message Fault.message
  exact ⟨fun writable => telling_of_isWritable writable _,
    fun wide => telling_of_not_isWritable wide _⟩

/-- What is said of too many digits does not begin like the text that names a key. -/
theorem tooManyDigits_append_ne (text digits : String) :
    tooManyDigits ++ text ≠ "key must be in 0..15, got " ++ digits := by
  intro same
  have first := congrArg (fun text : String => text.toList.head?) same
  simp only [String.toList_append] at first
  have told : tooManyDigits.toList = 'E' :: tooManyDigits.toList.tail := by decide +kernel
  rw [told] at first
  have letter : 'E' = 'k' := Option.some.inj first
  exact absurd letter (by decide)

/-! ## Everything that can come of a headless run -/

/-- A headless run ends, whatever it is given. It refuses a configuration exactly if loading
does, and then with a complaint; next a program exactly for its size; next the keys exactly
for the first that does not exist, which is named if it can be written; and then it fails exactly
if the run raises a tick that cannot be written, which takes a limit that cannot be either and a
machine that is not quiet. It refuses nothing else. In all other cases it reports what the loop of
the run comes to. With a seed, keys that are the same set give the same report. A raw machine, on
which anything could escape, gives the same answer. -/
theorem runHeadless_outcome (parser : Parser) (directory : Directory) (entropy : Nat)
    (program : List Byte) {given : Option Entries}
    (textKeys : ∀ entries ∈ given, Entries.TextKeys entries) (keys : List Int) :
    let loaded := Config.load parser directory (Config.given given)
    let result := (runHeadless parser directory entropy program given keys).result
    Config.Complains loaded ∧
    (∀ failure, result = .error (.config failure) ↔ loaded = .error failure) ∧
    (∀ config, loaded = .ok config →
      let run := runOf config entropy program keys
      (∀ size, result = .error (.machine (.programTooLarge size)) ↔
        programLimit < program.length ∧ size = program.length) ∧
      (∀ key, result = .error (.machine (.noSuchKey key)) ↔
        program.length ≤ programLimit ∧ firstMissing keys = some key) ∧
      (∀ tick, result = .error (.machine (.unwritable tick)) ↔
        program.length ≤ programLimit ∧ (∀ key ∈ keys, 0 ≤ key ∧ key < 16) ∧
          run.result = .error (.unwritable tick)) ∧
      (∀ fault, result = .error (.machine fault) →
        fault = .programTooLarge program.length ∨ (∃ key, fault = .noSuchKey key) ∨
          ∃ tick, fault = .unwritable tick) ∧
      (∀ tick, run.result = .error (.unwritable tick) → config.quiet = false ∧
        ¬ IsWritable tick ∧ ¬ IsWritable config.tickLimit ∧ 0 < tick ∧ tick ≤ config.tickLimit) ∧
      ((∃ report, result = .ok report) ↔
        program.length ≤ programLimit ∧ (∀ key ∈ keys, 0 ≤ key ∧ key < 16) ∧ run.IsTold) ∧
      (∀ report, result = .ok report → RunReport.Regular config report ∧
        ∃ steps answer left,
          Machine.Loop config.tickLimit config.pace (startOf config entropy program keys) steps
            answer left ∧
          report = left.report (FinalState.ofAnswer answer)) ∧
      (config.seed ≠ none → ∀ (other : Nat) (more : List Int),
        (∀ key, key ∈ more ↔ key ∈ keys) → ∀ report, result = .ok report →
          (runHeadless parser directory other program given more).result = .ok report)) ∧
    (∀ key : Int,
      (IsWritable key → (Refusal.machine (.noSuchKey key)).message =
        "key must be in 0..15, got " ++ Numeral.decimal 1 key) ∧
      (¬ IsWritable key → (Refusal.machine (.noSuchKey key)).message = tooManyDigits)) ∧
    RawMachine.runHeadless parser directory entropy program given keys =
      result.mapError Refusal.toRaw := by
  intro loaded result
  refine ⟨Config.complains_load_given parser directory textKeys, ?_, ?_,
    message_noSuchKey, runHeadless_toRaw parser directory entropy program given keys⟩
  · intro failure
    cases answer : loaded with
    | error other =>
      have refused : result = .error (.config other) :=
        congrArg HeadlessRun.result (runHeadless_of_refused answer)
      rw [refused]
      simp only [Except.error.injEq, Refusal.config.injEq]
    | ok config =>
      have outcome : HeadlessOutcome config entropy program keys result := headlessOutcome answer
      exact iff_of_false outcome.ne_config nofun
  · intro config answer run
    have outcome : HeadlessOutcome config entropy program keys result := headlessOutcome answer
    exact ⟨fun _ => outcome.tooLarge_iff, fun _ => outcome.missing_iff,
      fun _ => outcome.unreported_iff, fun _ => outcome.fault_cases,
      fun _ => wide_of_runOf, outcome.reported_iff, fun _ => outcome.regular,
      fun seeded other _ same _ reported => runHeadless_of_same answer seeded reported other same⟩

/-- A program that draws random bytes for ever, from a seed and for five ticks. Keys may be
told in another order or twice; of two that do not exist the first is told. -/
theorem runHeadless_outcome_at_seeded_keys :
    let given : Entries :=
      [(.text "rng_seed", .integer 7), (.text "tick_limit", .real (.finite false 5 0))]
    let program : List Byte := [0xC0, 0xFF, 0x12, 0x00]
    let run (entropy : Nat) (keys : List Int) :=
      (runHeadless Yaml.parse (fun _ => .missing) entropy program (some given) keys).result
    (∃ report, run 1 [3, 15, 3] = .ok report ∧ run 2 [15, 3] = .ok report ∧ report.ticks ≤ 5 ∧
      IsPicture report.screen) ∧
    run 1 [3, 16, -1] = .error (.machine (.noSuchKey 16)) := by
  intro given program run
  let config : Config := { tickLimit := 5, seed := some 7 }
  have loaded : Config.load Yaml.parse (fun _ => .missing) (Config.given (some given)) =
      .ok config := by rfl
  have textKeys : ∀ entries ∈ some given, Entries.TextKeys entries := by
    rintro entries ⟨⟩ entry member
    simp only [given, List.mem_cons, List.not_mem_nil, or_false] at member
    rcases member with rfl | rfl
    all_goals exact ⟨_, rfl⟩
  constructor
  · obtain ⟨_, _, outcomes, _⟩ :=
      runHeadless_outcome Yaml.parse (fun _ => .missing) 1 program textKeys [3, 15, 3]
    obtain ⟨_, _, _, _, wide, reported_iff, regular, by_set⟩ := outcomes config loaded
    have told : (runOf config 1 program [3, 15, 3]).IsTold :=
      fun tick silent => absurd (by decide) (wide tick silent).2.2.1
    obtain ⟨report, reported⟩ := reported_iff.mpr ⟨by decide, by decide, told⟩
    have allowed := (regular report reported).1
    have same : ∀ key, key ∈ [15, 3] ↔ key ∈ [(3 : Int), 15, 3] := by
      intro key
      simp only [List.mem_cons, List.not_mem_nil, or_false]
      omega
    exact ⟨report, reported, by_set nofun 2 [15, 3] same report reported, allowed.ticks_le,
      allowed.picture⟩
  · obtain ⟨_, _, outcomes, _⟩ :=
      runHeadless_outcome Yaml.parse (fun _ => .missing) 1 program textKeys [3, 16, -1]
    exact ((outcomes config loaded).2.1 16).mpr ⟨by decide, by decide⟩

/-- A key one digit too wide is refused without being named. -/
theorem runHeadless_leaves_wide_key_unnamed :
    let keys := [widest + 1]
    let run := runHeadless Yaml.parse (fun _ => .missing) 0 [0x12, 0x00] none keys
    firstMissing keys = some (widest + 1) ∧ ∃ refusal, run.result = .error refusal ∧
      refusal.message ≠ "key must be in 0..15, got " ++ Numeral.decimal 1 (widest + 1) := by
  intro keys run
  have missing : firstMissing keys = some (widest + 1) := by
    have sixteen : IsWritable 16 := by decide
    have absent : ¬ (0 ≤ widest + 1 ∧ widest + 1 < 16) := by
      rw [isWritable_iff_between] at sixteen
      omega
    rw [firstMissing, List.find?_cons, decide_eq_false absent]
    rfl
  have loaded : Config.load Yaml.parse (fun _ => .missing) (Config.given none) = .ok {} := rfl
  refine ⟨missing, _, runHeadless_of_missing loaded (by decide) missing, ?_⟩
  rw [(message_noSuchKey (widest + 1)).2 not_isWritable_widest_add_one]
  intro same
  exact tooManyDigits_append_ne "" _ ((String.append_empty).trans same)

end Chip8
