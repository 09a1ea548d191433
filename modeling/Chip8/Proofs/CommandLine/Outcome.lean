/-
# How a session ends

Five things are checked before a session runs its program: the configuration, how the keys are
written, that the program is there, its size, and that the keys exist. `Check.Fails` says of each by
itself when it fails and with which message, and `FirstFailing` picks the first one in that order.

Where the files can be read, that is nearly all there is. If a check fails, the session ends with
exit code 2 and shows the message of the first that does, and nothing else. If all pass, there is a
report whatever the program does, since a fault of the machine is a way for a run to end; the
session shows the report and ends with exit code 0. What remains are ticks of too many digits to be
written, which a limit of fewer digits keeps out: they end a run that tells its steps, and the
output of one that does not. A path that cannot be looked up is no file that can be read: the
session breaks off there, and says nothing of a check.

The two last checks are not made by the session but while the program is being run, so they are
found among the refusals of a headless run.
-/

import Chip8.CommandLine.Session
import Chip8.Proofs.Config.Escapes
import Chip8.Proofs.Headless
import Mathlib.Data.List.DropRight

namespace Chip8

/-! ## Files -/

/-- A file, or nothing: the path can be looked up and what is there can be read. -/
def PathTarget.IsFileOrNothing : PathTarget → Prop
  | missing | file _ => True
  | directory | unreachable _ => False

namespace Files

variable {files : Files} {name other path : String}

/-- A new file is not found under another name, and the other files still are. -/
theorem find?_put (files : Files) (bytes : List Byte) (apart : name ≠ other) :
    (files.put name bytes).find? (fun entry => entry.1 == other) =
      files.find? fun entry => entry.1 == other := by
  rw [put, List.find?_cons, beq_false_of_ne apart, List.find?_filter]
  dsimp only
  congr 1
  funext entry
  by_cases same : entry.1 = other
  · simp [same, Ne.symm apart]
  · simp [same]

/-- Creating a file changes nothing at a path that does not name it. -/
theorem target_put (files : Files) (bytes : List Byte) (apart : writableName? path ≠ some name) :
    (files.put name bytes).target path = files.target path := by
  rw [target, target]
  by_cases long : isTooLong path = true
  · rw [if_pos long, if_pos long]
  · rw [if_neg long, if_neg long]
    rw [writableName?] at apart
    split
    · rfl
    · rename_i step alone
      rw [alone] at apart
      split_ifs
      · rfl
      · rfl
      · rename_i rooted upward
        have other : name ≠ String.ofList step := by
          rintro rfl
          simp [rooted, upward, long] at apart
        rw [find?_put files bytes other]
    · rfl

/-- A name of so many letters is too long to be looked up. -/
theorem target_of_long_name (files : Files) (letters : name.toList = List.replicate 256 'a') :
    files.target name = .unreachable tooLong := by
  have long : isTooLong name = true := by
    rw [isTooLong, steps, letters]
    refine Bool.and_eq_true_iff.mpr ⟨by decide, Bool.or_eq_true_iff.mpr (.inr ?_)⟩
    decide +kernel
  rw [target, if_pos long]

end Files

namespace Text

/-- Nothing is left of a text without its blanks exactly if it has nothing else. -/
theorem trim_eq_nil_iff {text : List Char} :
    trim text = [] ↔ ∀ character ∈ text, isBlank character = true := by
  show List.rdropWhile isBlank (text.dropWhile isBlank) = [] ↔ _
  rw [List.rdropWhile_eq_nil_iff, ← List.dropWhile_eq_nil_iff, List.dropWhile_idempotent,
    List.dropWhile_eq_nil_iff]

end Text

namespace CommandLine

/-! ## Keys -/

/-- The items of a text of keys: what stands between commas and is not blank. -/
def keyItems (text : String) : List (List Char) :=
  (text.toList.splitOn ',').filter fun item => item.any fun character => !Text.isBlank character

/-- Each item of a text of keys is the number at its place. -/
def ReadsKeys (text : String) (keys : List Int) : Prop :=
  List.Forall₂ (fun item key => Text.readInteger .sixteen item = .ok key) (keyItems text) keys

theorem readKeys_eq (text : String) :
    readKeys text = (keyItems text).mapM (Text.readInteger .sixteen) := by
  rw [readKeys, keyItems]
  congr 2
  funext item
  rw [Bool.eq_iff_iff]
  simp [Text.trim_eq_nil_iff]

theorem mapM_eq_ok_iff {α β ε : Type} {f : α → Except ε β} {items : List α} {results : List β} :
    items.mapM f = .ok results ↔
      List.Forall₂ (fun item result => f item = .ok result) items results := by
  induction items generalizing results with
  | nil =>
    rw [List.forall₂_nil_left_iff, List.mapM_nil]
    exact ⟨fun same => (Except.ok.inj same).symm, fun same => congrArg Except.ok same.symm⟩
  | cons item rest ih =>
    rw [List.forall₂_cons_left_iff, List.mapM_cons]
    cases first : f item with
    | error fault => exact iff_of_false nofun nofun
    | ok result =>
      cases later : rest.mapM f with
      | error fault =>
        refine iff_of_false nofun ?_
        rintro ⟨_, results, _, all, _⟩
        cases later.symm.trans (ih.mpr all)
      | ok results =>
        constructor
        · rintro ⟨⟩
          exact ⟨result, results, rfl, ih.mp later, rfl⟩
        · rintro ⟨_, _, ⟨⟩, all, rfl⟩
          cases later.symm.trans (ih.mpr all)
          rfl

theorem exists_forall₂_iff {α β : Type} {R : α → β → Prop} {items : List α} :
    (∃ results, List.Forall₂ R items results) ↔ ∀ item ∈ items, ∃ result, R item result := by
  induction items with
  | nil => exact iff_of_true ⟨[], .nil⟩ nofun
  | cons item rest ih =>
    rw [List.forall_mem_cons, ← ih]
    constructor
    · rintro ⟨_, _ | ⟨here, all⟩⟩
      exact ⟨⟨_, here⟩, _, all⟩
    · rintro ⟨⟨_, here⟩, _, all⟩
      exact ⟨_, .cons here all⟩

theorem readKeys_eq_ok_iff {text : String} {keys : List Int} :
    readKeys text = .ok keys ↔ ReadsKeys text keys := by
  rw [readKeys_eq, mapM_eq_ok_iff]
  rfl

/-! ## What is checked -/

/-- What is checked before the program of a session runs. -/
inductive Check where
  | config
  | keySyntax
  | programThere
  | programSize
  | keyRange
  deriving DecidableEq, Repr

namespace Check

/-- The checks in their order. -/
def all : List Check := [config, keySyntax, programThere, programSize, keyRange]

/-- A check fails, for itself, with a message. -/
inductive Fails (arguments : Arguments) (parser : Parser) (directory : Directory) :
    Check → String → Prop
  | config {failure : Config.Failure}
    (refused : loadConfig parser directory arguments.config = .error failure) :
    Fails arguments parser directory config ("Bad config: " ++ failure.message)
  | keySyntax {item : List Char} {fault : Text.IntegerFault}
    (member : item ∈ keyItems arguments.keys)
    (unread : Text.readInteger .sixteen item = .error fault) :
    Fails arguments parser directory keySyntax ("Bad --keys value: " ++ arguments.keys)
  | programThere (nothing : directory arguments.program = .missing) :
    Fails arguments parser directory programThere ("Program file not found: " ++ arguments.program)
  | programSize {program : List Byte} (there : directory arguments.program = .file program)
    (large : programLimit < program.length) :
    Fails arguments parser directory programSize
      ("Cannot run program: " ++ (Fault.programTooLarge program.length).message)
  | keyRange {keys : List Int} {key : Int} (read : ReadsKeys arguments.keys keys)
    (first : firstMissing keys = some key) :
    Fails arguments parser directory keyRange
      ("Cannot run program: " ++ (Fault.noSuchKey key).message)

/-- A check fails with no message. -/
def Passes (check : Check) (arguments : Arguments) (parser : Parser) (directory : Directory) :
    Prop :=
  ∀ message, ¬ check.Fails arguments parser directory message

end Check

/-- The first of these checks that fails does so with this message. -/
inductive FirstFailing (arguments : Arguments) (parser : Parser) (directory : Directory) :
    List Check → String → Prop
  | here {check : Check} {rest : List Check} {message : String}
    (fails : check.Fails arguments parser directory message) :
    FirstFailing arguments parser directory (check :: rest) message
  | later {check : Check} {rest : List Check} {message : String}
    (passes : check.Passes arguments parser directory)
    (first : FirstFailing arguments parser directory rest message) :
    FirstFailing arguments parser directory (check :: rest) message

/-- The configuration and the program can be read, if they are there, and no key of the
configuration is anything but a text. A path that cannot be looked up, such as one with a name of
more than 255 bytes, names neither a file nor nothing, so it is left out here. -/
structure Arguments.Readable (arguments : Arguments) (parser : Parser) (directory : Directory) :
    Prop where
  program : (directory arguments.program).IsFileOrNothing
  config : ∀ path ∈ arguments.config, (directory path).IsFileOrNothing
  textKeys : ∀ path ∈ arguments.config, ∀ bytes entries, directory path = .file bytes →
    parser bytes = .ok (.mapping entries) → Entries.TextKeys entries

/-- Everything that a session needs is there and in order. -/
structure Ready (arguments : Arguments) (parser : Parser) (directory : Directory) (config : Config)
    (keys : List Int) (program : List Byte) : Prop where
  loaded : loadConfig parser directory arguments.config = .ok config
  read : ReadsKeys arguments.keys keys
  there : directory arguments.program = .file program
  fits : program.length ≤ programLimit
  real : ∀ key ∈ keys, 0 ≤ key ∧ key < 16

section Checks

variable {arguments : Arguments} {parser : Parser} {directory : Directory}
  {message other : String}

theorem ReadsKeys.unique {text : String} {keys more : List Int} (read : ReadsKeys text keys)
    (also : ReadsKeys text more) : keys = more :=
  Except.ok.inj ((readKeys_eq_ok_iff.mpr read).symm.trans (readKeys_eq_ok_iff.mpr also))

theorem Check.Fails.unique {check : Check} (fails : check.Fails arguments parser directory message)
    (also : check.Fails arguments parser directory other) : message = other := by
  cases fails with
  | config refused =>
    obtain ⟨refused'⟩ := also
    cases refused.symm.trans refused'
    rfl
  | keySyntax | programThere =>
    cases also
    rfl
  | programSize there =>
    obtain _ | _ | _ | ⟨there'⟩ := also
    cases there.symm.trans there'
    rfl
  | keyRange read first =>
    obtain _ | _ | _ | _ | ⟨read', first'⟩ := also
    rw [read.unique read'] at first
    cases first.symm.trans first'
    rfl

namespace FirstFailing

variable {checks : List Check}

theorem unique (first : FirstFailing arguments parser directory checks message)
    (also : FirstFailing arguments parser directory checks other) : message = other := by
  induction first with
  | here fails =>
    cases also with
    | here fails' => exact fails.unique fails'
    | later passes => exact absurd fails (passes _)
  | later passes _ ih =>
    cases also with
    | here fails => exact absurd fails (passes _)
    | later _ first' => exact ih first'

theorem fails (first : FirstFailing arguments parser directory checks message) :
    ∃ check ∈ checks, check.Fails arguments parser directory message := by
  induction first with
  | here fails => exact ⟨_, List.mem_cons_self, fails⟩
  | later _ _ ih =>
    obtain ⟨check, member, fails⟩ := ih
    exact ⟨check, List.mem_cons_of_mem _ member, fails⟩

end FirstFailing

/-- A check that passes, by what it would fail for. -/
theorem passes_config {config : Config}
    (loaded : loadConfig parser directory arguments.config = .ok config) :
    Check.config.Passes arguments parser directory := by
  rintro _ ⟨refused⟩
  cases loaded.symm.trans refused

theorem passes_keySyntax {keys : List Int} (read : ReadsKeys arguments.keys keys) :
    Check.keySyntax.Passes arguments parser directory := by
  rintro _ (_ | ⟨member, unread⟩)
  obtain ⟨key, reads⟩ := exists_forall₂_iff.mp ⟨keys, read⟩ _ member
  cases reads.symm.trans unread

theorem passes_programThere {program : List Byte}
    (there : directory arguments.program = .file program) :
    Check.programThere.Passes arguments parser directory := by
  rintro _ (_ | _ | ⟨nothing⟩)
  cases there.symm.trans nothing

theorem passes_programSize {program : List Byte}
    (there : directory arguments.program = .file program) (fits : program.length ≤ programLimit) :
    Check.programSize.Passes arguments parser directory := by
  rintro _ (_ | _ | _ | ⟨there', large⟩)
  cases there.symm.trans there'
  exact absurd large (Nat.not_lt.mpr fits)

theorem passes_keyRange {keys : List Int} (read : ReadsKeys arguments.keys keys)
    (real : ∀ key ∈ keys, 0 ≤ key ∧ key < 16) :
    Check.keyRange.Passes arguments parser directory := by
  rintro _ (_ | _ | _ | _ | ⟨read', first⟩)
  rw [← read.unique read', firstMissing_eq_none_iff.mpr real] at first
  cases first

/-- Where everything is in order, no check fails. -/
theorem Ready.passes {config : Config} {keys : List Int} {program : List Byte}
    (ready : Ready arguments parser directory config keys program) (check : Check) :
    check.Passes arguments parser directory := by
  cases check with
  | config => exact passes_config ready.loaded
  | keySyntax => exact passes_keySyntax ready.read
  | programThere => exact passes_programThere ready.there
  | programSize => exact passes_programSize ready.there ready.fits
  | keyRange => exact passes_keyRange ready.read ready.real

/-! ## What comes of the checks -/

/-- The configuration of a session is loaded, or there is a complaint. -/
theorem Arguments.Readable.complains (readable : arguments.Readable parser directory) :
    Config.Complains (loadConfig parser directory arguments.config) := by
  rw [loadConfig]
  cases given : arguments.config with
  | none => exact Config.complains_ofEntries nofun
  | some path =>
    rcases Config.supplies_or_refused parser directory (.text path) with
      ⟨entries, supplies⟩ | ⟨failure, refused, complaint⟩ | ⟨_, reason, ⟨⟩, unreachable⟩
    · have loaded := Config.load_of_supplies supplies
      simp only [Option.map_some, Option.getD_some, loaded]
      refine Config.complains_ofEntries ?_
      cases supplies with
      | document there read => exact readable.textKeys path given _ entries there read
      | emptyDocument => exact nofun
    · simp only [Option.map_some, Option.getD_some, refused]
      exact Config.complains_error complaint
    · have there := readable.config path given
      rw [unreachable] at there
      exact there.elim

/-- Keys that are not read have an item that is not. -/
theorem fails_keySyntax {fault : Text.IntegerFault}
    (unread : readKeys arguments.keys = .error fault) :
    Check.keySyntax.Fails arguments parser directory ("Bad --keys value: " ++ arguments.keys) := by
  by_contra passes
  have all : ∀ item ∈ keyItems arguments.keys, ∃ key, Text.readInteger .sixteen item = .ok key := by
    intro item member
    cases here : Text.readInteger .sixteen item with
    | ok key => exact ⟨key, rfl⟩
    | error other => exact absurd (.keySyntax member here) passes
  obtain ⟨keys, read⟩ := exists_forall₂_iff.mpr all
  cases unread.symm.trans (readKeys_eq_ok_iff.mpr read)

/-- What a program comes to whose run is refused, for a reason that has a message. -/
theorem runProgram_of_refused {config : Config} {keys : List Int} {entropy : Nat}
    {program : List Byte} {refusal : Refusal}
    (refused : (runHeadless parser directory entropy program (some config.toEntries) keys).result =
      .error refusal) (expected : isExpected refusal = true) :
    ∃ events, runProgram parser directory config keys entropy program =
      refuse ("Cannot run program: " ++ refusal.message) events := by
  rw [runProgram]
  simp only [refused, expected, ↓reduceIte]
  exact ⟨_, rfl⟩

/-- What a program comes to whose run is reported, at ticks that can be written. -/
theorem runProgram_of_reported {config : Config} {keys : List Int} {entropy : Nat}
    {program : List Byte} {report : RunReport}
    (reported : (runHeadless parser directory entropy program (some config.toEntries) keys).result =
      .ok report) (writable : IsWritable report.ticks) :
    ∃ events, runProgram parser directory config keys entropy program =
      ⟨.exit 0, reportText report, events⟩ := by
  rw [runProgram]
  simp only [reported, if_pos writable]
  exact ⟨_, rfl⟩

/-- What a program comes to whose run is reported, at ticks that cannot be written. -/
theorem runProgram_of_wide {config : Config} {keys : List Int} {entropy : Nat}
    {program : List Byte} {report : RunReport}
    (reported : (runHeadless parser directory entropy program (some config.toEntries) keys).result =
      .ok report) (wide : ¬ IsWritable report.ticks) :
    ∃ events, runProgram parser directory config keys entropy program =
      ⟨.broken (.ticks report.ticks), report.screen ++ "\n", events⟩ := by
  rw [runProgram]
  simp only [reported, if_neg wide]
  exact ⟨_, rfl⟩

/-- A run that is shown: it reports every step, and the tick at its end can be written. -/
def IsShown (config : Config) (entropy : Nat) (program : List Byte) (keys : List Int) : Prop :=
  (runOf config entropy program keys).IsTold ∧
    IsWritable (runOf config entropy program keys).machine.tick

/-- A limit that can be written is enough for a run to be shown. -/
theorem isShown_of_isWritable {config : Config} (writable : IsWritable config.tickLimit)
    (entropy : Nat) (program : List Byte) (keys : List Int) :
    IsShown config entropy program keys := by
  have told : (runOf config entropy program keys).IsTold :=
    fun tick silent => (wide_of_runOf silent).2.2.1 writable
  obtain ⟨_, loop⟩ := Machine.loop_run config.tickLimit config.pace config.nonzero_pace
    (startOf config entropy program keys)
  have regular := loop.regular told (tick_startOf config entropy program keys)
  exact ⟨told, isWritable_zero.between writable regular.ticks_nonneg regular.ticks_le⟩

/-- What a session comes to that can be judged by its checks alone. -/
inductive SessionOutcome (arguments : Arguments) (parser : Parser) (directory : Directory)
    (entropy : Nat) : Session → Prop
  | refused {message : String} {events : List Event}
    (first : FirstFailing arguments parser directory Check.all message) :
    SessionOutcome arguments parser directory entropy (refuse message events)
  | untold {config : Config} {keys : List Int} {program : List Byte} {tick : Int}
    {events : List Event} (ready : Ready arguments parser directory config keys program)
    (silent : (runOf config entropy program keys).result = .error (.unwritable tick)) :
    SessionOutcome arguments parser directory entropy
      (refuse ("Cannot run program: " ++ tooManyDigits) events)
  | wide {config : Config} {keys : List Int} {program : List Byte} {events : List Event}
    {output : String} (ready : Ready arguments parser directory config keys program)
    (told : (runOf config entropy program keys).IsTold)
    (wide : ¬ IsWritable (runOf config entropy program keys).machine.tick) :
    SessionOutcome arguments parser directory entropy
      ⟨.broken (.ticks (runOf config entropy program keys).machine.tick), output, events⟩
  | shown {config : Config} {keys : List Int} {program : List Byte} {report : RunReport}
    {events : List Event} (ready : Ready arguments parser directory config keys program)
    (shows : IsShown config entropy program keys)
    (reported : (runHeadless parser directory entropy program (some config.toEntries)
      keys).result = .ok report) :
    SessionOutcome arguments parser directory entropy ⟨.exit 0, reportText report, events⟩

/-- What comes of a program once the checks before it have passed. -/
theorem sessionOutcome_runProgram {config : Config} {keys : List Int} {program : List Byte}
    (loaded : loadConfig parser directory arguments.config = .ok config)
    (reads : ReadsKeys arguments.keys keys) (there : directory arguments.program = .file program)
    (entropy : Nat) :
    SessionOutcome arguments parser directory entropy
      (runProgram parser directory config keys entropy program) := by
  have config_passes := passes_config loaded
  have keys_pass : Check.keySyntax.Passes arguments parser directory := passes_keySyntax reads
  have program_passes : Check.programThere.Passes arguments parser directory :=
    passes_programThere there
  have again := Config.load_given_toEntries parser directory config
  have outcome : HeadlessOutcome config entropy program keys _ := headlessOutcome again
  generalize result : (runHeadless parser directory entropy program (some config.toEntries)
    keys).result = answer at outcome
  cases outcome with
  | tooLarge large =>
    obtain ⟨events, refused⟩ := runProgram_of_refused result rfl
    rw [refused]
    exact .refused (.later config_passes (.later keys_pass (.later program_passes
      (.here (.programSize there large)))))
  | missing fits first =>
    obtain ⟨events, refused⟩ := runProgram_of_refused result rfl
    rw [refused]
    exact .refused (.later config_passes (.later keys_pass (.later program_passes
      (.later (passes_programSize there fits) (.here (.keyRange reads first))))))
  | unreported fits real silent =>
    obtain ⟨events, refused⟩ := runProgram_of_refused result rfl
    rw [refused]
    exact .untold ⟨loaded, reads, there, fits, real⟩ silent
  | reported fits real told =>
    have ready : Ready arguments parser directory config keys program :=
      ⟨loaded, reads, there, fits, real⟩
    by_cases writable : IsWritable (runOf config entropy program keys).machine.tick
    · obtain ⟨events, ran⟩ := runProgram_of_reported result writable
      rw [ran]
      exact .shown ready ⟨told, writable⟩ result
    · obtain ⟨events, ran⟩ := runProgram_of_wide result writable
      rw [ran]
      exact .wide ready told writable

/-- A session is refused with the message of the first failing check, or everything is in order and
its run decides. -/
theorem sessionOutcome_perform (readable : arguments.Readable parser directory) (entropy : Nat) :
    SessionOutcome arguments parser directory entropy
      (perform parser arguments directory entropy) := by
  rw [perform]
  cases loaded : loadConfig parser directory arguments.config with
  | error failure =>
    have complaint := readable.complains failure loaded
    simp only [complaint, ↓reduceIte]
    exact .refused (.here (.config loaded))
  | ok config =>
    have config_passes := passes_config loaded
    cases read : readKeys arguments.keys with
    | error fault => exact .refused (.later config_passes (.here (fails_keySyntax read)))
    | ok keys =>
      have reads := readKeys_eq_ok_iff.mp read
      have there := readable.program
      cases target : directory arguments.program with
      | missing =>
        exact .refused (.later config_passes (.later (passes_keySyntax reads)
          (.here (.programThere target))))
      | directory | unreachable =>
        rw [target] at there
        exact there.elim
      | file program => exact sessionOutcome_runProgram loaded reads target entropy

/-- A session breaks off at a program whose path cannot be looked up. -/
theorem perform_of_unreachable {config : Config} {keys : List Int} {reason : String}
    (loaded : loadConfig parser directory arguments.config = .ok config)
    (read : ReadsKeys arguments.keys keys)
    (unreachable : directory arguments.program = .unreachable reason) (entropy : Nat) :
    perform parser arguments directory entropy =
      ⟨.broken (.unreachable arguments.program reason), "", []⟩ := by
  rw [perform, loaded]
  simp only [readKeys_eq_ok_iff.mpr read, unreachable]

/-- A report tells of a fault if the run met one. -/
theorem report_state_eq_fault_iff {config : Config} {keys : List Int} {program : List Byte}
    {entropy : Nat} {report : RunReport}
    (ready : Ready arguments parser directory config keys program)
    (told : (runOf config entropy program keys).IsTold)
    (reported : (runHeadless parser directory entropy program (some config.toEntries) keys).result =
      .ok report) :
    report.state = .fault ↔ ∃ fault, fault.isMachineFault = true ∧
      (runOf config entropy program keys).result = .error fault := by
  have again := Config.load_given_toEntries parser directory config
  obtain ⟨_, loop⟩ := Machine.loop_run config.tickLimit config.pace config.nonzero_pace
    (startOf config entropy program keys)
  rw [runHeadless_of_told again ready.fits ready.real told] at reported
  cases reported
  show FinalState.ofAnswer _ = _ ↔ _
  cases ended : (runOf config entropy program keys).result with
  | ok ending => exact iff_of_false nofun nofun
  | error fault =>
    exact iff_of_true rfl ⟨fault, loop.isMachineFault_of_told told ended, rfl⟩

/-- What is loaded, the keys and the program are told by the arguments and what they name. -/
theorem Ready.unique {config config' : Config} {keys keys' : List Int}
    {program program' : List Byte} (ready : Ready arguments parser directory config keys program)
    (also : Ready arguments parser directory config' keys' program') :
    config = config' ∧ keys = keys' ∧ program = program' := by
  refine ⟨Except.ok.inj (ready.loaded.symm.trans also.loaded), ready.read.unique also.read, ?_⟩
  cases ready.there.symm.trans also.there
  rfl

/-- Not everything is in order where a check fails. -/
theorem Ready.not_firstFailing {config : Config} {keys : List Int} {program : List Byte}
    (ready : Ready arguments parser directory config keys program) :
    ¬ FirstFailing arguments parser directory Check.all message := by
  intro first
  obtain ⟨check, _, fails⟩ := first.fails
  exact ready.passes check message fails

/-- How a session ends and what it shows, where everything can be read. -/
structure EndsByChecks (arguments : Arguments) (parser : Parser) (directory : Directory)
    (entropy : Nat) (ending : Ending) (shown : String) : Prop where
  checked : (∃ message, FirstFailing arguments parser directory Check.all message) ∨
    ∃ config keys program, Ready arguments parser directory config keys program
  refuses : ∀ message, FirstFailing arguments parser directory Check.all message →
    ending = .exit 2 ∧ shown = message ++ "\n"
  exits_zero_iff : ending = .exit 0 ↔
    ∃ config keys program, Ready arguments parser directory config keys program ∧
      IsShown config entropy program keys
  shows_report : ∀ config keys program, Ready arguments parser directory config keys program →
    IsShown config entropy program keys →
    ∃ report,
      (runHeadless parser directory entropy program (some config.toEntries) keys).result =
        .ok report ∧
      shown = report.screen ++ "\n" ++ "TICKS: " ++ Numeral.decimal 1 report.ticks ++ " STATE: " ++
        report.state.name ++ "\n" ∧
      (report.state = .fault ↔ ∃ fault, fault.isMachineFault = true ∧
        (runOf config entropy program keys).result = .error fault)
  /-- Only ticks of too many digits keep a run from being shown. -/
  is_shown : ∀ config keys program, Ready arguments parser directory config keys program →
    IsWritable config.tickLimit → IsShown config entropy program keys
  untold : ∀ config keys program tick, Ready arguments parser directory config keys program →
    (runOf config entropy program keys).result = .error (.unwritable tick) →
    ending = .exit 2 ∧ shown = "Cannot run program: " ++ tooManyDigits ++ "\n"
  wide : ∀ config keys program, Ready arguments parser directory config keys program →
    (runOf config entropy program keys).IsTold →
    ¬ IsWritable (runOf config entropy program keys).machine.tick →
    ending = .broken (.ticks (runOf config entropy program keys).machine.tick)

/-- Without the log on the console, a session shows nothing but its own output. -/
theorem shown_of_silent (silent : arguments.console = false) (session : Session) :
    session.shown arguments = session.output := by
  rw [Session.shown, silent, Bool.and_false]
  rfl

theorem endsByChecks_of_ready {config : Config} {keys : List Int} {program : List Byte}
    {entropy : Nat} {ending : Ending} {shown : String}
    (ready : Ready arguments parser directory config keys program)
    (exits_zero_iff : ending = .exit 0 ↔ IsShown config entropy program keys)
    (shows_report : IsShown config entropy program keys → ∃ report,
      (runHeadless parser directory entropy program (some config.toEntries) keys).result =
        .ok report ∧ shown = reportText report)
    (untold : ∀ tick, (runOf config entropy program keys).result = .error (.unwritable tick) →
      ending = .exit 2 ∧ shown = "Cannot run program: " ++ tooManyDigits ++ "\n")
    (wide : (runOf config entropy program keys).IsTold →
      ¬ IsWritable (runOf config entropy program keys).machine.tick →
      ending = .broken (.ticks (runOf config entropy program keys).machine.tick)) :
    EndsByChecks arguments parser directory entropy ending shown where
  checked := .inr ⟨config, keys, program, ready⟩
  refuses _ first := absurd first ready.not_firstFailing
  exits_zero_iff := by
    rw [exits_zero_iff]
    constructor
    · exact fun shows => ⟨config, keys, program, ready, shows⟩
    · rintro ⟨_, _, _, also, shows⟩
      obtain ⟨rfl, rfl, rfl⟩ := ready.unique also
      exact shows
  shows_report := by
    intro _ _ _ also shows
    obtain ⟨rfl, rfl, rfl⟩ := ready.unique also
    obtain ⟨report, reported, text⟩ := shows_report shows
    exact ⟨report, reported, text, report_state_eq_fault_iff ready shows.1 reported⟩
  is_shown _ keys program _ writable := isShown_of_isWritable writable entropy program keys
  untold := by
    intro _ _ _ tick also silent
    obtain ⟨rfl, rfl, rfl⟩ := ready.unique also
    exact untold tick silent
  wide := by
    intro _ _ _ also told broad
    obtain ⟨rfl, rfl, rfl⟩ := ready.unique also
    exact wide told broad

/-- Where a check fails, nothing else counts. -/
theorem endsByChecks_of_failing {entropy : Nat}
    (first : FirstFailing arguments parser directory Check.all message) :
    EndsByChecks arguments parser directory entropy (.exit 2) (message ++ "\n") where
  checked := .inl ⟨message, first⟩
  refuses other also := by
    rw [first.unique also]
    exact ⟨rfl, rfl⟩
  exits_zero_iff := by
    refine iff_of_false nofun ?_
    rintro ⟨_, _, _, ready, _⟩
    exact ready.not_firstFailing first
  shows_report _ _ _ ready := absurd first ready.not_firstFailing
  is_shown _ _ _ ready := absurd first ready.not_firstFailing
  untold _ _ _ _ ready := absurd first ready.not_firstFailing
  wide _ _ _ ready := absurd first ready.not_firstFailing

theorem endsByChecks_perform (readable : arguments.Readable parser directory)
    (silent : arguments.console = false) (entropy : Nat) :
    EndsByChecks arguments parser directory entropy
      (perform parser arguments directory entropy).ending
      ((perform parser arguments directory entropy).shown arguments) := by
  rw [shown_of_silent silent]
  have outcome := sessionOutcome_perform readable entropy
  generalize perform parser arguments directory entropy = session at outcome
  cases outcome with
  | refused first => exact endsByChecks_of_failing first
  | untold ready silent =>
    exact endsByChecks_of_ready ready (iff_of_false nofun fun shows => shows.1 _ silent)
      (fun shows => absurd silent (shows.1 _)) (fun _ _ => ⟨rfl, rfl⟩)
      (fun told => absurd silent (told _))
  | wide ready told wide =>
    exact endsByChecks_of_ready ready (iff_of_false nofun fun shows => wide shows.2)
      (fun shows => absurd shows.2 wide) (fun tick silent => absurd silent (told tick))
      (fun _ _ => rfl)
  | shown ready shows reported =>
    exact endsByChecks_of_ready ready (iff_of_true rfl shows) (fun _ => ⟨_, reported, rfl⟩)
      (fun tick silent => absurd silent (shows.1 tick)) (fun _ wide => absurd shows.2 wide)

end Checks

/-! ## Whole command lines -/

variable {parser : Parser} {directory other : Directory}

theorem loadConfig_congr {path : Option String}
    (same : ∀ name ∈ path, other name = directory name) :
    loadConfig parser other path = loadConfig parser directory path := by
  rw [loadConfig, loadConfig]
  cases path with
  | none => rfl
  | some name =>
    show Config.ofFile parser other name = Config.ofFile parser directory name
    rw [Config.ofFile, Config.ofFile, same name rfl]

/-- A session looks at nothing but the paths of its configuration and its program. -/
theorem perform_congr {arguments : Arguments} (entropy : Nat)
    (same_config : ∀ path ∈ arguments.config, other path = directory path)
    (same_program : other arguments.program = directory arguments.program) :
    perform parser arguments other entropy = perform parser arguments directory entropy := by
  rw [perform, perform, loadConfig_congr same_config, same_program]
  rfl

/-- A command line that asks for a run comes to its session, on the files with a new log. -/
theorem runOn_of_reads {files : Files} {name : String} {texts : List String}
    {arguments : Arguments} (reads : read texts = .run arguments)
    (writable : Files.writableName? arguments.logfile = some name) (entropy : Nat) :
    let session := perform parser arguments (files.put name []).target entropy
    runOn parser files entropy texts =
      ⟨session.ending, session.shown arguments, some ⟨name, session.logged arguments⟩⟩ := by
  rw [runOn, reads]
  simp only [writable]

/-- Where the configuration and the program can be read, and creating the log file touches neither,
a session passes five checks and shows the report of its run, or it ends with exit code 2 and the
message of the first check that fails. A key is named in the message if it can be written. Only a
limit of too many digits leaves a run that is not shown: then it raises a tick that cannot be
written, which is a message of its own, or the session breaks off at the ticks of its report.

A path that cannot be looked up is not one that can be read, and a session breaks off there. -/
theorem session_ends_by_checks (parser : Parser) {texts : List String} {arguments : Arguments}
    (reads : read texts = .run arguments) (silent : arguments.console = false) (entropy : Nat) :
    (∀ directory : Directory, arguments.Readable parser directory →
      EndsByChecks arguments parser directory entropy
        (perform parser arguments directory entropy).ending
        ((perform parser arguments directory entropy).shown arguments)) ∧
    (∀ (files : Files) (log : String), Files.writableName? arguments.logfile = some log →
      Files.writableName? arguments.program ≠ some log →
      (∀ path ∈ arguments.config, Files.writableName? path ≠ some log) →
      arguments.Readable parser files.target →
      EndsByChecks arguments parser files.target entropy (runOn parser files entropy texts).ending
        (runOn parser files entropy texts).shown) ∧
    ∀ key : Int,
      (IsWritable key →
        (Fault.noSuchKey key).message = "key must be in 0..15, got " ++ Numeral.decimal 1 key) ∧
      (¬ IsWritable key → (Fault.noSuchKey key).message = tooManyDigits) := by
  refine ⟨fun directory readable => endsByChecks_perform readable silent entropy,
    fun files log writable program_apart config_apart readable => ?_, message_noSuchKey⟩
  have performed : perform parser arguments (files.put log []).target entropy =
      perform parser arguments files.target entropy :=
    perform_congr entropy (fun path given => Files.target_put files [] (config_apart path given))
      (Files.target_put files [] program_apart)
  rw [runOn_of_reads reads writable]
  simp only [performed]
  exact endsByChecks_perform readable silent entropy

/-- Keys that cannot be read are told before a program that is missing; a program that is too large
before a key that does not exist; and a program that makes no sense is run. -/
theorem session_ends_by_checks_at_two_failures :
    let session (files : Files) (texts : List String) := runOn Yaml.parse files 0 texts
    let keysFirst := session [] ["nothing.ch8", "--keys", "1,zz"]
    let sizeFirst := session [("p.ch8", List.replicate 3585 0)] ["p.ch8", "--keys", " 10 ,,f"]
    let faulty := session [("p.ch8", [0xFF, 0xFF])] ["p.ch8", "--keys", " 0xA ,,f"]
    (keysFirst.ending = .exit 2 ∧ keysFirst.shown = "Bad --keys value: 1,zz" ++ "\n") ∧
    (sizeFirst.ending = .exit 2 ∧ sizeFirst.shown =
      "Cannot run program: Program is 3585 bytes, at most 3584 fit above 0x200" ++ "\n") ∧
    faulty.ending = .exit 0 := by
  intro session keysFirst sizeFirst faulty
  refine ⟨?_, ?_, ?_⟩
  · let arguments : Arguments := { program := "nothing.ch8", keys := "1,zz" }
    have reads : read ["nothing.ch8", "--keys", "1,zz"] = .run arguments := by rfl
    have there : Files.target [] "nothing.ch8" = .missing := by rfl
    have readable : arguments.Readable Yaml.parse (Files.target []) :=
      ⟨there ▸ trivial, nofun, nofun⟩
    have ends := (session_ends_by_checks Yaml.parse reads rfl 0).2.1 [] "processor.log"
      (by decide) (by decide) nofun readable
    have loaded : loadConfig Yaml.parse (Files.target []) none = .ok {} := by rfl
    have unread : Text.readInteger .sixteen ['z', 'z'] = .error .malformed := by rfl
    have member : ['z', 'z'] ∈ keyItems "1,zz" := by decide
    exact ends.refuses _ (.later (passes_config loaded)
      (.here (.keySyntax member unread)))
  · let arguments : Arguments := { program := "p.ch8", keys := " 10 ,,f" }
    let files : Files := [("p.ch8", List.replicate 3585 0)]
    have reads : read ["p.ch8", "--keys", " 10 ,,f"] = .run arguments := by rfl
    have there : files.target "p.ch8" = .file (List.replicate 3585 0) := by rfl
    have readable : arguments.Readable Yaml.parse files.target :=
      ⟨there ▸ trivial, nofun, nofun⟩
    have ends := (session_ends_by_checks Yaml.parse reads rfl 0).2.1 files "processor.log"
      (by decide) (by decide) nofun readable
    have loaded : loadConfig Yaml.parse files.target none = .ok {} := by rfl
    have read_keys : ReadsKeys " 10 ,,f" [16, 15] := readKeys_eq_ok_iff.mp (by rfl)
    have large : programLimit < (List.replicate 3585 (0 : Byte)).length := by
      rw [List.length_replicate]
      decide
    have fails : Check.programSize.Fails arguments Yaml.parse files.target _ :=
      .programSize there large
    rw [List.length_replicate] at fails
    exact ends.refuses _ (.later (passes_config loaded)
      (.later (passes_keySyntax read_keys) (.later (passes_programThere there) (.here fails))))
  · let arguments : Arguments := { program := "p.ch8", keys := " 0xA ,,f" }
    let files : Files := [("p.ch8", [0xFF, 0xFF])]
    have reads : read ["p.ch8", "--keys", " 0xA ,,f"] = .run arguments := by rfl
    have there : files.target "p.ch8" = .file [0xFF, 0xFF] := by rfl
    have readable : arguments.Readable Yaml.parse files.target :=
      ⟨there ▸ trivial, nofun, nofun⟩
    have ends := (session_ends_by_checks Yaml.parse reads rfl 0).2.1 files "processor.log"
      (by decide) (by decide) nofun readable
    have loaded : loadConfig Yaml.parse files.target none = .ok {} := by rfl
    have read_keys : ReadsKeys " 0xA ,,f" [10, 15] := readKeys_eq_ok_iff.mp (by rfl)
    have writable : IsWritable ({} : Config).tickLimit := by decide
    have shows := isShown_of_isWritable writable 0 [0xFF, 0xFF] [10, 15]
    exact ends.exits_zero_iff.mpr
      ⟨_, _, _, ⟨loaded, read_keys, there, by decide, by decide⟩, shows⟩

/-- So many letters are one key, and a wide one. -/
theorem readsKeys_of_wide_key {text : String} (letters : text.toList = List.replicate 4000 'f') :
    ReadsKeys text [16 ^ 4000 - 1] := by
  have items : keyItems text = [List.replicate 4000 'f'] := by
    rw [keyItems, letters]
    decide +kernel
  have number : Text.readInteger .sixteen (List.replicate 4000 'f') = .ok (16 ^ 4000 - 1) := by
    decide +kernel
  rw [ReadsKeys, items]
  exact .cons number .nil

/-- A key that does not exist and cannot be written is refused without being named. -/
theorem firstFailing_of_wide_key {arguments : Arguments} {config : Config} {program : List Byte}
    {key : Int} (loaded : loadConfig parser directory arguments.config = .ok config)
    (read : ReadsKeys arguments.keys [key]) (there : directory arguments.program = .file program)
    (fits : program.length ≤ programLimit) (wide : ¬ IsWritable key) :
    FirstFailing arguments parser directory Check.all
      ("Cannot run program: " ++ tooManyDigits) := by
  have missing : firstMissing [key] = some key := by
    rw [firstMissing, List.find?_singleton, if_pos]
    rw [decide_eq_false, Bool.not_false]
    exact fun real => wide (isWritable_zero.between (by decide : IsWritable 16) real.1 real.2.le)
  have fails : Check.keyRange.Fails arguments parser directory _ := .keyRange read missing
  have message : (Fault.noSuchKey key).message = tooManyDigits := (message_noSuchKey key).2 wide
  rw [message] at fails
  exact .later (passes_config loaded) (.later (passes_keySyntax read)
    (.later (passes_programThere there) (.later (passes_programSize there fits) (.here fails))))

/-- A session that is told to hold so many letters does not name them. -/
theorem shown_ne_of_wide_key {text : String} (letters : text.toList = List.replicate 4000 'f') :
    (runOn Yaml.parse [("p.ch8", [0x12, 0x00])] 0 ["p.ch8", "--keys", text]).shown ≠
      "Cannot run program: key must be in 0..15, got " ++ Numeral.decimal 1 (16 ^ 4000 - 1) ++
        "\n" := by
  let arguments : Arguments := { program := "p.ch8", keys := text }
  let files := Files.put [("p.ch8", [0x12, 0x00])] "processor.log" []
  have reads : read ["p.ch8", "--keys", text] = .run arguments := by
    simp only [read, classify, classOf, letters]
    rfl
  have read_keys : ReadsKeys arguments.keys [16 ^ 4000 - 1] := readsKeys_of_wide_key letters
  have unwritable : ¬ IsWritable (16 ^ 4000 - 1) := by
    rw [isWritable_iff]
    decide +kernel
  generalize (16 ^ 4000 - 1 : Int) = key at read_keys unwritable ⊢
  have writable : Files.writableName? "processor.log" = some "processor.log" := by decide
  have loaded : loadConfig Yaml.parse files.target arguments.config = .ok {} := rfl
  have there : files.target "p.ch8" = .file [0x12, 0x00] := by decide
  have readable : arguments.Readable Yaml.parse files.target := ⟨there ▸ trivial, nofun, nofun⟩
  have first := firstFailing_of_wide_key loaded read_keys there (by decide) unwritable
  have shown := ((endsByChecks_perform readable rfl 0).refuses _ first).2
  have words : "Cannot run program: key must be in 0..15, got " =
      "Cannot run program: " ++ "key must be in 0..15, got " := by decide
  rw [runOn_of_reads reads writable]
  show (perform Yaml.parse arguments files.target 0).shown arguments ≠ _
  rw [shown, words, String.append_assoc, String.append_assoc, String.append_assoc]
  exact fun same => tooManyDigits_append_ne _ _ ((String.append_right_inj _).mp same)

/-- How a session ends whose program has a name of so many letters. -/
theorem ending_of_long_name {name : String} (letters : name.toList = List.replicate 256 'a') :
    read [name] = .run { program := name } ∧
      (runOn Yaml.parse [] 0 [name]).ending = .broken (.unreachable name Files.tooLong) := by
  let arguments : Arguments := { program := name }
  let files := Files.put [] "processor.log" []
  have reads : read [name] = .run arguments := by
    rw [read, classify, classOf, letters]
    rfl
  have writable : Files.writableName? "processor.log" = some "processor.log" := by decide
  have loaded : loadConfig Yaml.parse files.target arguments.config = .ok {} := rfl
  have no_keys : ReadsKeys arguments.keys [] := readKeys_eq_ok_iff.mp rfl
  have broken : perform Yaml.parse arguments files.target 0 = _ :=
    perform_of_unreachable loaded no_keys (files.target_of_long_name letters) 0
  refine ⟨reads, ?_⟩
  rw [runOn_of_reads reads writable]
  exact congrArg Session.ending broken

/-- A key that is too wide to be written is not named. And no file has a name of so many letters,
yet a session does not end with the message that the program is missing. -/
theorem session_leaves_checks_at_wide_key_and_long_name :
    let text := String.ofList (List.replicate 4000 'f')
    let name := String.ofList (List.replicate 256 'a')
    (ReadsKeys text [16 ^ 4000 - 1] ∧
      (runOn Yaml.parse [("p.ch8", [0x12, 0x00])] 0 ["p.ch8", "--keys", text]).shown ≠
        "Cannot run program: key must be in 0..15, got " ++ Numeral.decimal 1 (16 ^ 4000 - 1) ++
          "\n") ∧
    read [name] = .run { program := name } ∧
      (runOn Yaml.parse [] 0 [name]).ending = .broken (.unreachable name Files.tooLong) :=
  have letters (character : Char) (count : Nat) :
      (String.ofList (List.replicate count character)).toList = List.replicate count character :=
    String.toList_ofList
  ⟨⟨readsKeys_of_wide_key (letters 'f' 4000), shown_ne_of_wide_key (letters 'f' 4000)⟩,
    ending_of_long_name (letters 'a' 256)⟩

end CommandLine

end Chip8
