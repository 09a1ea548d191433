/-
# Loading what was loaded

A configuration is loaded again wherever it is handed on: a headless run loads what it is given and
hands it on written out, building the machine loads that, and a command line has loaded it before
both. However a value was spelled at first, written out it is an integer, a truth value or nothing,
which is converted to itself and keeps the limits that it has kept before. So loading again comes to
the same configuration, and what is built and run does not depend on how often that is done.

Only the random stream of a machine does not depend on the configuration alone. Without a seed it
starts from somewhere else each time.
-/

import Chip8.CommandLine.Session
import Chip8.Proofs.Headless
import Chip8.Proofs.Raw.Simulation.Loader
import Chip8.Yaml.Document

namespace Chip8

/-- What a session makes of a headless run. -/
def CommandLine.sessionOf (run : HeadlessRun) : CommandLine.Session :=
  match run.result with
  | .error refusal =>
    if isExpected refusal then refuse ("Cannot run program: " ++ refusal.message) run.events
    else ⟨.broken (.run refusal), "", run.events⟩
  | .ok report =>
    if IsWritable report.ticks then ⟨.exit 0, reportText report, run.events⟩
    else ⟨.broken (.ticks report.ticks), report.screen ++ "\n", run.events⟩

namespace Machine

/-- An outcome with another random stream in the machine. -/
def withRandom (random : Twister) (outcome : Outcome Unit) : Outcome Unit :=
  { outcome with machine := { outcome.machine with random := random } }

/-- Machines that are built with different random streams differ in nothing else. -/
theorem build_random (settings : Settings) (random other : Twister) (program : List Byte) :
    build settings other program = withRandom other (build settings random program) := by
  rw [build, build]
  split
  · rfl
  · rw [load, load]
    split
    · rfl
    · rfl

end Machine

namespace Config

/-- Only mappings whose keys are texts are loaded. -/
theorem textKeys_of_loaded {entries : Entries} {config : Config}
    (loaded : ofEntries entries = .ok config) : entries.TextKeys := by
  intro entry member
  cases isText : entry.1.text? with
  | some key => exact ⟨key, Value.eq_text_of_text? isText⟩
  | none =>
    obtain ⟨failure, refused, _⟩ := checkKeys_of_no_text (List.mem_map_of_mem member) isText
    rcases afterChecks_ofEntries entries with ⟨_, _, refused'⟩ | ⟨_, _, _, left⟩
    · cases loaded.symm.trans refused'
    · rw [refused] at left
      cases loaded.symm.trans left

theorem load_given (parser : Parser) (directory : Directory) (entries : Option Entries) :
    load parser directory (given entries) = ofEntries (entries.getD []) := by
  cases entries with
  | none => rfl
  | some _ => rfl

/-- Loading in place what was loaded in place makes the same dictionary once more. -/
theorem InPlace.run_load_twice {dictionaries : List Entries} {defaults : Nat} {source : Option Nat}
    {entries : Entries} {config : Config} (loaded : ofEntries entries = .ok config)
    (defaultsThere : dictionaries[defaults]? = some (row Setting.default))
    (lies : Lies dictionaries source entries) :
    (do InPlace.load defaults (some (← InPlace.load defaults source))).run dictionaries =
      .ok (dictionaries.length + 1) (dictionaries ++ [config.toEntries, config.toEntries]) := by
  have first := (run_load defaultsThere lies (textKeys_of_loaded loaded)).1 config loaded
  have there : Lies (dictionaries ++ [config.toEntries]) (some dictionaries.length)
      config.toEntries := new_there dictionaries config.toEntries
  have again := (run_load (old_there defaultsThere config.toEntries) there
    (textKeys_of_loaded (ofEntries_toEntries config))).1 config (ofEntries_toEntries config)
  rw [EStateM.run_bind, first]
  dsimp only
  rw [again, List.length_append, List.append_assoc]
  rfl

end Config

/-- Whatever a parser makes of files, what is loaded is loaded again as it is, in place or not, and
what is built and run of it is what is built and run of the value that it was first loaded from. -/
theorem loading_is_idempotent {parser : Parser} {directory : Directory} {value : Value}
    {config : Config} (loaded : Config.load parser directory value = .ok config) :
    (∀ other : Directory, Config.load parser other (.mapping config.toEntries) = .ok config) ∧
    (∀ (given : Option Entries) (entropy other : Nat) (program : List Byte) (keys : List Int),
      Config.given given = value → (config.seed = none → other = entropy) →
      Machine.buildGiven parser directory other (some config.toEntries) program =
        Machine.buildGiven parser directory entropy given program ∧
      runHeadless parser directory other program (some config.toEntries) keys =
        runHeadless parser directory entropy program given keys) ∧
    (∀ (given : Option Entries) (entropy other : Nat) (program : List Byte),
      Config.given given = value →
      Machine.buildGiven parser directory other (some config.toEntries) program =
        (Machine.buildGiven parser directory entropy given program).map
          (Machine.withRandom (config.random other))) ∧
    (∀ (entropy : Nat) (program : List Byte) (keys : List Int),
      runHeadless parser directory entropy program (some config.toEntries) keys =
        runOnce config entropy program keys ∧
      CommandLine.runProgram parser directory config keys entropy program =
        CommandLine.sessionOf (runOnce config entropy program keys)) ∧
    ∀ (given : Option Entries) (dictionaries : List Entries) (defaults : Nat)
      (source : Option Nat), Config.given given = value →
      dictionaries[defaults]? = some (Config.row Config.Setting.default) →
      Config.InPlace.Lies dictionaries source (given.getD []) →
      (do Config.InPlace.load defaults (some (← Config.InPlace.load defaults source))).run
          dictionaries =
        .ok (dictionaries.length + 1) (dictionaries ++ [config.toEntries, config.toEntries]) := by
  have again (other : Directory) :
      Config.load parser other (.mapping config.toEntries) = .ok config :=
    Config.load_given_toEntries parser other config
  have run_once (entropy : Nat) (program : List Byte) (keys : List Int) :
      runHeadless parser directory entropy program (some config.toEntries) keys =
        runOnce config entropy program keys :=
    runHeadless_eq_runOnce (Config.load_given_toEntries parser directory config)
  refine ⟨again, ?_, ?_, ?_, ?_⟩
  · rintro given entropy other program keys rfl same
    have stream := Config.random_eq same
    constructor
    · rw [Machine.buildGiven_of_loaded loaded, Machine.buildGiven_of_loaded (again directory),
        stream]
    · rw [runHeadless_eq_runOnce loaded, run_once, runOnce, runOnce, stream]
  · rintro given entropy other program rfl
    rw [Machine.buildGiven_of_loaded loaded, Machine.buildGiven_of_loaded (again directory)]
    exact congrArg Except.ok (Machine.build_random _ (config.random entropy) _ program)
  · intro entropy program keys
    refine ⟨run_once entropy program keys, ?_⟩
    rw [← run_once]
    rfl
  · rintro given dictionaries defaults source rfl defaultsThere lies
    rw [Config.load_given] at loaded
    exact Config.InPlace.run_load_twice loaded defaultsThere lies

/-- Every setting is given and none as what it is: a double that is cut, a padded digit of another
script, a truth value for a number, an empty list for a truth value. The seed makes the random
stream the same wherever else it might start. -/
theorem loading_is_idempotent_at_odd_spellings :
    let given : Entries :=
      [(.text "tick_limit", .real (.finite false 15 (-1))), (.text "pause_tick", .text " \u0663\n"),
        (.text "steps_per_timer_tick", .boolean true), (.text "rng_seed", .text "-0_7"),
        (.text "shift_flag_lsb", .text "\tYES"), (.text "load_font", .list []),
        (.text "lenient_log", .text "")]
    let config : Config :=
      { tickLimit := 7, pauseTick := some 3, stepsPerTimerTick := 1, shiftFlagFromLowBit := true,
        loadFont := false, seed := some (-7), pauseTick_nonneg := by decide }
    let directory : Directory := fun _ => .missing
    let program : List Byte := [0xC0, 0xFF, 0x12, 0x00]
    let defaults := Config.row Config.Setting.default
    Config.load Yaml.parse directory (.mapping given) = .ok config ∧
    Config.load Yaml.parse directory (.mapping config.toEntries) = .ok config ∧
    runHeadless Yaml.parse directory 2 program (some config.toEntries) [3] =
      runHeadless Yaml.parse directory 1 program (some given) [3] ∧
    (do Config.InPlace.load 0 (some (← Config.InPlace.load 0 (some 1)))).run [defaults, given] =
      .ok 3 [defaults, given, config.toEntries, config.toEntries] := by
  intro given config directory program defaults
  have loaded : Config.load Yaml.parse directory (.mapping given) = .ok config := by rfl
  obtain ⟨again, run_again, _, _, in_place⟩ := loading_is_idempotent loaded
  exact ⟨loaded, again directory, (run_again (some given) 1 2 program [3] rfl nofun).2,
    in_place (some given) [defaults, given] 0 (some 1) rfl rfl rfl⟩

end Chip8
