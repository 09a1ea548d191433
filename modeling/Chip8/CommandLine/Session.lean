/-
# Sessions

A session is one run of the command line. The log file is created before
anything else, so it also replaces a configuration or a program of that name.
Then the configuration, the keys, the program's file, its size and the keys'
range are checked in this order, and the first thing wrong is the one message of
the session. Otherwise the program runs, and the session shows the screen and
how the run ended; a fault of the machine is an ending like any other.

Some things break a session off without a message of its own: a configuration
whose unknown keys cannot be told, a path that cannot be looked up, a directory
where a file is needed, ticks of too many digits to be shown below the screen, and
whatever a run gives no report for that the session does not expect.

Files are looked up in a directory and configurations are read by a parser; both
are given from outside.
-/

import Chip8.CommandLine.Arguments
import Chip8.CommandLine.Help
import Chip8.CommandLine.Log
import Chip8.Config.Load
import Chip8.Headless

namespace Chip8.CommandLine

/-- What breaks a session off. -/
inductive Breakdown where
  /-- The configuration fails in a way that is no complaint. -/
  | config (failure : Config.Failure)
  /-- A directory stands where a file is needed. -/
  | directory (path : String)
  /-- The path of the program cannot be looked up, for this reason. -/
  | unreachable (path reason : String)
  /-- The log file cannot be created. -/
  | logfile (path : String)
  /-- The run gives no report, for a reason that is not expected. -/
  | run (refusal : Refusal)
  /-- The ticks of the report have too many digits to be written. -/
  | ticks (count : Int)
  deriving DecidableEq, Repr

/-- The text of a breakdown. -/
def Breakdown.message : Breakdown → String
  | config failure => failure.message
  | directory path => Files.isADirectory path
  | unreachable path reason => reason ++ ": " ++ Text.quoted (Files.tidy path)
  | logfile path => "[Errno 2] No such file or directory: " ++ Text.quoted path
  | run refusal => refusal.message
  | ticks _ => tooManyDigits

/-- How a session ended. -/
inductive Ending where
  /-- With an exit code. -/
  | exit (code : Nat)
  /-- It broke off. -/
  | broken (breakdown : Breakdown)
  deriving DecidableEq, Repr

/-- What a session did: how it ended, what it printed, and what it logged. -/
structure Session where
  /-- How it ended. -/
  ending : Ending
  /-- What it printed itself. -/
  output : String
  /-- The events of the machine. -/
  events : List Event

/-- A session refused with a message. -/
def refuse (message : String) (events : List Event) : Session :=
  ⟨.exit 2, message ++ "\n", events⟩

/-- The key numbers in a text: items between commas, in base sixteen. Blank items
are passed over. -/
def readKeys (text : String) : Except Text.IntegerFault (List Int) :=
  ((text.toList.splitOn ',').filter fun item => !(Text.trim item).isEmpty).mapM
    (Text.readInteger .sixteen)

/-- The lines that a finished run prints, for ticks that can be written. -/
def reportText (report : RunReport) : String :=
  report.screen ++ "\n" ++ "TICKS: " ++ Numeral.decimal 1 report.ticks ++ " STATE: " ++
    report.state.name ++ "\n"

/-- Whether a session has a message for the reason why a run gives no report. -/
def isExpected : Refusal → Bool
  | .config failure => failure.isComplaint
  | .machine (.programTooLarge _) | .machine (.noSuchKey _) | .machine (.unwritable _) => true
  | .machine _ => false

/-- Run the bytes of a program. The configuration is handed on written out. -/
def runProgram (parser : Parser) (directory : Directory) (config : Config) (keys : List Int)
    (entropy : Nat) (program : List Byte) : Session :=
  let run := runHeadless parser directory entropy program (some config.toEntries) keys
  match run.result with
  | .error refusal =>
    if isExpected refusal then refuse ("Cannot run program: " ++ refusal.message) run.events
    else ⟨.broken (.run refusal), "", run.events⟩
  | .ok report =>
    if IsWritable report.ticks then ⟨.exit 0, reportText report, run.events⟩
    else ⟨.broken (.ticks report.ticks), report.screen ++ "\n", run.events⟩

/-- The configuration of a session: from a file, or all defaults. -/
def loadConfig (parser : Parser) (directory : Directory) (path : Option String) :
    Except Config.Failure Config :=
  Config.load parser directory ((path.map Value.text).getD .null)

/-- A session from its arguments on, once the log file is there. -/
def perform (parser : Parser) (arguments : Arguments) (directory : Directory) (entropy : Nat) :
    Session :=
  match loadConfig parser directory arguments.config with
  | .error failure =>
    if failure.isComplaint then refuse ("Bad config: " ++ failure.message) []
    else ⟨.broken (.config failure), "", []⟩
  | .ok config =>
    match readKeys arguments.keys with
    | .error _ => refuse ("Bad --keys value: " ++ arguments.keys) []
    | .ok keys =>
      match directory arguments.program with
      | .missing => refuse ("Program file not found: " ++ arguments.program) []
      | .directory => ⟨.broken (.directory arguments.program), "", []⟩
      | .unreachable reason => ⟨.broken (.unreachable arguments.program reason), "", []⟩
      | .file program => runProgram parser directory config keys entropy program

/-- What a session shows on standard output: the log first, if it is shown. -/
def Session.shown (session : Session) (arguments : Arguments) : String :=
  (if arguments.debug && arguments.console then consoleText session.events else "") ++
    session.output

/-- What a session leaves in the log file. -/
def Session.logged (session : Session) (arguments : Arguments) : String :=
  if arguments.debug then logText session.events else ""

/-! ## Sessions on given files -/

/-- A text file that a session wrote. -/
structure WrittenFile where
  /-- The name in the working directory. -/
  name : String
  /-- The text. -/
  text : String
  deriving DecidableEq, Repr

/-- What a whole command line comes to on given files. -/
structure Result where
  /-- How it ended. -/
  ending : Ending
  /-- What standard output shows. -/
  shown : String
  /-- The log file, if one was created. -/
  log : Option WrittenFile

/-- Run a command line on given files. -/
def runOn (parser : Parser) (files : Files) (entropy : Nat) (argumentTexts : List String) :
    Result :=
  match read argumentTexts with
  | .help => ⟨.exit 0, helpText, none⟩
  | .refused => ⟨.exit 2, "", none⟩
  | .run arguments =>
    match Files.writableName? arguments.logfile with
    | none => ⟨.broken (.logfile arguments.logfile), "", none⟩
    | some name =>
      let session := perform parser arguments (files.put name []).target entropy
      ⟨session.ending, session.shown arguments, some ⟨name, session.logged arguments⟩⟩

end Chip8.CommandLine
