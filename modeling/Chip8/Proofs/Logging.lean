/-
# Logging is observation only

What is logged changes nothing that is done. There are two places to ask for less of it. A
machine may be told to keep quiet about its steps; then a host gets the same answers from it,
and its log is the other machine's without the lines of steps. And a command line may ask for a
log, in a file or on the console as well; then the session ends as it would without, and its
own output comes last, after whatever is shown of the log.

The first holds as long as every step can be told. A tick of too many digits cannot be written,
and a machine that is not quiet fails where it would have to: the quiet one goes on.

The second statement says what two command lines have in common that ask for the same but for
logging. That a switch in front of a command line asks for nothing but logging is the last part.
-/

import Chip8.CommandLine.Session
import Chip8.Proofs.CommandLine.Flags
import Chip8.Proofs.CommandLine.Outcome
import Chip8.Proofs.Inputs
import Chip8.Proofs.Machine.Quiet
import Chip8.Proofs.Reset

namespace Chip8

/-! ## Conversations with a quiet machine -/

/-- An action that makes steps. -/
def HostAction.Steps : HostAction → Prop
  | .command given => given.Steps
  | .assign _ => False

namespace Machine

/-- All steps that a machine makes for a host are told: none fails for want of a report. -/
def TellsSteps (machine : Machine) : List HostAction → Prop
  | [] => True
  | action :: rest =>
    (action.Steps → (act action machine).IsTold) ∧ (act action machine).machine.TellsSteps rest

theorem act_quieted {action : HostAction} {machine : Machine}
    (told : action.Steps → (act action machine).IsTold) :
    act action (machine.without .quiet) = (act action machine).quieted := by
  cases action with
  | command command => exact perform_quieted machine command told
  | assign assignment =>
    cases assignment with
    | _ => rfl

/-- A quiet machine answers as the other does, and reports all but the traces. -/
theorem conversation_quieted {machine : Machine} {actions : List HostAction}
    (told : machine.TellsSteps actions) :
    (machine.without .quiet).conversation actions =
        (machine.conversation actions).map (fun told => (told.1, untraced told.2)) ∧
      (machine.without .quiet).afterAll actions = (machine.afterAll actions).without .quiet := by
  induction actions generalizing machine with
  | nil => exact ⟨rfl, rfl⟩
  | cons action rest ih =>
    obtain ⟨told_here, told_later⟩ := told
    obtain ⟨later, final⟩ := ih told_later
    rw [conversation, conversation, List.map_cons, act_quieted told_here]
    simp only [Outcome.quieted, later]
    refine ⟨trivial, ?_⟩
    rw [afterAll, List.foldl_cons, act_quieted told_here]
    exact final

/-- The lines that a conversation leaves in a log. -/
def logLines (conversation : List (Except Fault Reply × List Event)) : List String :=
  loggedLines (conversation.flatMap Prod.snd)

/-- The line is the trace of a step. -/
def isTraceLine (line : String) : Bool :=
  "TICK:".toList.isPrefixOf line.toList

/-- The line of an event is the trace of a step if the event is. -/
theorem filter_line? (event : Event) :
    event.line?.filter (fun line => !isTraceLine line) =
      if !event.isTrace then event.line? else none := by
  rw [Event.line?]
  by_cases writable : IsWritable event.number
  · rw [if_pos writable, Option.filter_some, isTraceLine, Event.isPrefixOf_message]
  · rw [if_neg writable, Option.filter_none, ite_self]

/-- Without the traces of steps, what is left in the log are the other lines. -/
theorem loggedLines_untraced (events : List Event) :
    loggedLines (untraced events) = (loggedLines events).filter fun line => !isTraceLine line := by
  rw [loggedLines, loggedLines, untraced, List.filterMap_filter, List.filter_filterMap]
  congr 1
  funext event
  exact (filter_line? event).symm

theorem logLines_quieted {machine : Machine} {actions : List HostAction}
    (told : machine.TellsSteps actions) :
    logLines ((machine.without .quiet).conversation actions) =
      (logLines (machine.conversation actions)).filter fun line => !isTraceLine line := by
  rw [(conversation_quieted told).1, logLines, logLines, ← loggedLines_untraced, untraced,
    List.filter_flatMap, List.flatMap_map]
  rfl

end Machine

/-! ## Command lines -/

/-- With a seed a headless run does the same wherever else the random stream might start. -/
theorem runHeadless_of_seeded {parser : Parser} {directory : Directory} {given : Option Entries}
    {config : Config}
    (loaded : Config.load parser directory (Config.given given) = .ok config)
    (seeded : config.seed ≠ none) (entropy other : Nat) (program : List Byte) (keys : List Int) :
    runHeadless parser directory other program given keys =
      runHeadless parser directory entropy program given keys := by
  rw [runHeadless_eq_runOnce loaded, runHeadless_eq_runOnce loaded, runOnce, runOnce,
    random_of_seeded seeded entropy other]

namespace CommandLine

/-- The arguments with this choice of debugging and of the console. -/
def Arguments.choosing (arguments : Arguments) (debug console : Bool) : Arguments :=
  { arguments with debug := debug, console := console }

/-- The configuration of a session, if it has one, has a seed. -/
def Arguments.IsSeeded (arguments : Arguments) (parser : Parser) (directory : Directory) : Prop :=
  ∀ config, loadConfig parser directory arguments.config = .ok config → config.seed ≠ none

variable {arguments : Arguments} {parser : Parser} {directory : Directory}

theorem perform_of_seeded (seeded : arguments.IsSeeded parser directory) (entropy other : Nat) :
    perform parser arguments directory other = perform parser arguments directory entropy := by
  rw [perform, perform]
  cases loaded : loadConfig parser directory arguments.config with
  | error failure => rfl
  | ok config =>
    simp only
    cases readKeys arguments.keys with
    | error fault => rfl
    | ok keys =>
      cases directory arguments.program with
      | missing | directory | unreachable => rfl
      | file program =>
        simp only [runProgram]
        rw [runHeadless_of_seeded (Config.load_given_toEntries parser directory config)
          (seeded config loaded) entropy other]

/-- What the choice of logging leaves alone is all that a session does. -/
theorem runOn_choosing {files : Files} {name : String} {texts : List String} {debug console : Bool}
    (reads : read texts = .run (arguments.choosing debug console))
    (writable : Files.writableName? arguments.logfile = some name)
    (seeded : arguments.IsSeeded parser (files.put name []).target) (entropy : Nat) :
    let session := perform parser arguments (files.put name []).target 0
    (runOn parser files entropy texts).ending = session.ending ∧
      (runOn parser files entropy texts).shown =
        (if debug && console then consoleText session.events else "") ++ session.output := by
  intro session
  have same : perform parser (arguments.choosing debug console) (files.put name []).target
      entropy = session := perform_of_seeded seeded 0 entropy
  have writable_too : Files.writableName? (arguments.choosing debug console).logfile =
      some name := writable
  rw [runOn_of_reads reads writable_too]
  simp only [same]
  exact ⟨trivial, rfl⟩

end CommandLine

/-! ## Logging is observation only -/

open CommandLine in
/-- What is logged changes nothing that is done. A machine that keeps quiet about its steps
gives the same answers and faults to a host, comes to the same state but for the setting, and
logs the same lines but for those of steps, as long as the other machine can tell every step that
it makes. Command lines that differ in their switches for debugging and the console end the same
way with the same output of their own, if their random bytes start from a seed; and put in front of
a command line these switches set their flags. -/
theorem logging_is_observation (parser : Parser) :
    (∀ (machine : Machine) (actions : List HostAction), machine.TellsSteps actions →
      let quiet := { machine with settings := { machine.settings with quiet := true } }
      let left := machine.afterAll actions
      (quiet.conversation actions).map Prod.fst = (machine.conversation actions).map Prod.fst ∧
      quiet.afterAll actions =
        { left with settings := { left.settings with quiet := true } } ∧
      Machine.logLines (quiet.conversation actions) =
        (Machine.logLines (machine.conversation actions)).filter fun line =>
          !Machine.isTraceLine line) ∧
    (∀ (files : Files) (arguments : Arguments) (name : String),
      Files.writableName? arguments.logfile = some name →
      arguments.IsSeeded parser (files.put name []).target →
      ∃ (ending : Ending) (events : List Event) (output : String),
        ∀ (debug console : Bool) (texts : List String) (entropy : Nat),
          read texts = .run (arguments.choosing debug console) →
          (runOn parser files entropy texts).ending = ending ∧
          (runOn parser files entropy texts).shown =
            (if debug && console then consoleText events else "") ++ output) ∧
    (∀ (texts : List String) (arguments : Arguments), read texts = .run arguments →
      read ("--debug" :: texts) = .run (arguments.choosing true arguments.console) ∧
      read ("--console" :: texts) = .run (arguments.choosing arguments.debug true)) := by
  refine ⟨?_, ?_, ?_⟩
  · intro machine actions tells quiet left
    obtain ⟨told, final⟩ := Machine.conversation_quieted tells
    refine ⟨?_, final, Machine.logLines_quieted tells⟩
    show ((machine.without .quiet).conversation actions).map Prod.fst = _
    rw [told, List.map_map]
    rfl
  · intro files arguments name writable seeded
    let session := perform parser arguments (files.put name []).target 0
    refine ⟨session.ending, session.events, session.output, ?_⟩
    intro debug console texts entropy reads
    exact runOn_choosing reads writable seeded entropy
  · intro texts arguments reads
    rw [read_debug, read_console, reads]
    exact ⟨rfl, rfl⟩

open CommandLine Machine in
/-- A jump to itself. A machine that steps there twice logs two traces, which a quiet one leaves
out. Run from a command line with a seed in its configuration, with the log on the console and
without, the session ends the same way, and its output comes last. -/
theorem logging_is_observation_at_self_jump :
    let machine := bare [0x12, 0x00]
    let quiet := { machine with settings := { machine.settings with quiet := true } }
    let steps := [HostAction.command .step, .command .step]
    let files : Files := [("p.ch8", [0x12, 0x00]), ("c.yaml", "rng_seed: 7".toUTF8.toList)]
    let texts := ["p.ch8", "--config", "c.yaml"]
    let plain := runOn Yaml.parse files 1 texts
    let shown := runOn Yaml.parse files 2 ("--console" :: "--debug" :: texts)
    logLines (quiet.conversation steps) = [] ∧
      (logLines (machine.conversation steps)).length = 2 ∧
      shown.ending = plain.ending ∧
      ∃ events, shown.shown = consoleText events ++ plain.shown := by
  intro machine quiet steps files texts plain shown
  obtain ⟨machines, sessions, flags⟩ := logging_is_observation Yaml.parse
  have tells : machine.TellsSteps steps := by
    refine ⟨fun _ value failed => ?_, fun _ value failed => ?_, trivial⟩
    · have went : (act (.command .step) machine).result = .ok (.status .running) := by
        decide +kernel
      cases failed.symm.trans went
    · have went : (act (.command .step) (act (.command .step) machine).machine).result =
          .ok (.status .running) := by
        decide +kernel
      cases failed.symm.trans went
  have traces : ∀ line ∈ logLines (machine.conversation steps), isTraceLine line = true := by
    decide +kernel
  have lines : logLines (quiet.conversation steps) = _ := (machines machine steps tells).2.2
  have silent : logLines (quiet.conversation steps) = [] := by
    rw [lines, List.filter_eq_nil_iff]
    intro line logged
    rw [traces line logged]
    decide
  let arguments : Arguments := { program := "p.ch8", config := some "c.yaml" }
  have seeds : (loadConfig Yaml.parse (files.put "processor.log" []).target
      arguments.config).toOption.map Config.seed = some (some 7) := by
    decide +kernel
  have seeded : arguments.IsSeeded Yaml.parse (files.put "processor.log" []).target := by
    intro config loaded
    rw [loaded] at seeds
    rw [Option.some.inj seeds]
    exact nofun
  have reads : read texts = .run arguments := by decide
  have debugged := (flags texts arguments reads).1
  have both := (flags ("--debug" :: texts) _ debugged).2
  obtain ⟨ending, events, output, same⟩ :=
    sessions files arguments "processor.log" (by decide) seeded
  obtain ⟨plain_ending, plain_shown⟩ := same false false texts 1 reads
  obtain ⟨shown_ending, shown_text⟩ := same true true ("--console" :: "--debug" :: texts) 2 both
  refine ⟨silent, by decide +kernel, shown_ending.trans plain_ending.symm, events, ?_⟩
  rw [shown_text, plain_shown]
  rfl

open Machine in
/-- At the widest tick a quiet machine takes a step, and one that has to tell it fails. -/
theorem quiet_step_differs_at_widest_tick :
    let machine : Machine := { bare [0x60, 0x01] with tick := widest }
    let quiet := { machine with settings := { machine.settings with quiet := true } }
    (quiet.conversation [.command .step]).map Prod.fst ≠
      (machine.conversation [.command .step]).map Prod.fst := by
  intro machine quiet same
  have went : quiet.step.result = .ok .running := by decide +kernel
  have silent : ¬ machine.Reportable := not_reportable_of_widest machine rfl rfl
  clear_value quiet machine
  have first : (perform .step quiet).result = (perform .step machine).result :=
    (List.cons.inj same).1
  have told : machine.step.result.map Reply.status = .ok (.status .running) :=
    first.symm.trans (congrArg (Except.map Reply.status) went)
  cases answer : machine.step.result with
  | error fault =>
    rw [answer] at told
    cases told
  | ok status => exact silent (reportable_of_ok answer)

end Chip8
