/-
# Arguments

A command line names a program and may set switches. A switch may be shortened as
long as it stays the only one of that beginning. The value of a switch follows
it, or is joined to it by an equals sign. Behind a lone `--` nothing is a switch.

Every argument is classed first, by its own text alone. Then the classes are
read from left to right. A shortened switch that could be several is refused
before anything is read; asking for help is heard as soon as it is reached.
-/

import Chip8.Text.Digit

namespace Chip8.CommandLine

/-- The switches of the command line. -/
inductive Switch where
  | help
  | config
  | keys
  | debug
  | logfile
  | console
  deriving DecidableEq, Repr

namespace Switch

/-- Every switch. -/
def all : List Switch := [help, config, keys, debug, logfile, console]

/-- How a switch is written in full. -/
def name : Switch → String
  | help => "--help"
  | config => "--config"
  | keys => "--keys"
  | debug => "--debug"
  | logfile => "--logfile"
  | console => "--console"

/-- Whether a switch needs a value. -/
def takesValue : Switch → Bool
  | config | keys | logfile => true
  | help | debug | console => false

end Switch

/-- What the command line asks for. -/
structure Arguments where
  /-- The program file. -/
  program : String
  /-- The configuration file. -/
  config : Option String := none
  /-- The keys to hold, as one text. -/
  keys : String := ""
  /-- Whether to log events. -/
  debug : Bool := false
  /-- The log file. -/
  logfile : String := "processor.log"
  /-- Whether to show the log as well. -/
  console : Bool := false
  deriving DecidableEq, Repr

/-- What one argument is, by its own text. -/
inductive ArgumentClass where
  /-- A value or the program. -/
  | plain
  /-- The lone `--`. -/
  | divider
  /-- A switch, perhaps with a joined value. -/
  | switch (switch : Switch) (joined : Option String)
  /-- It looks like a switch, but there is none of that name. -/
  | unknown
  /-- It is short for several switches. -/
  | ambiguous
  deriving DecidableEq, Repr

/-! ## Classing -/

/-- Whether a text is a minus and a number. -/
def looksNegative (text : List Char) : Bool :=
  match text with
  | '-' :: body =>
    let isDigit (c : Char) := (Text.digitValue? c).isSome
    let whole := body.takeWhile isDigit
    let rest := (body.dropWhile isDigit)
    let ends (tail : List Char) := tail == [] || tail == ['\n']
    (!whole.isEmpty && ends rest) ||
      match rest with
      | '.' :: fraction =>
        !(fraction.takeWhile isDigit).isEmpty && ends (fraction.dropWhile isDigit)
      | _ => false
  | _ => false

/-- Split a text at its first equals sign. -/
def splitJoined (text : List Char) : List Char × Option String :=
  let before := text.takeWhile (· != '=')
  match text.drop before.length with
  | _ :: value => (before, some (String.ofList value))
  | [] => (before, none)

/-- The class of a text that starts with a minus but is no switch. -/
def classOther (text : List Char) : ArgumentClass :=
  if looksNegative text ∨ ' ' ∈ text then .plain else .unknown

/-- The class of a text that starts with two minus signs. -/
def classLong (text : List Char) : ArgumentClass :=
  let (name, joined) := splitJoined text
  match Switch.all.find? fun switch => switch.name.toList == name with
  | some switch => .switch switch joined
  | none =>
    match Switch.all.filter fun switch => name.isPrefixOf switch.name.toList with
    | [] => classOther text
    | [switch] => .switch switch joined
    | _ => .ambiguous

/-- The class of a text that starts with one minus sign. Only help has a short
form; what is joined to it stays joined. -/
def classShort (text : List Char) : ArgumentClass :=
  match text with
  | ['-', 'h'] => .switch .help none
  | '-' :: 'h' :: rest => .switch .help (some (String.ofList rest))
  | ['-'] => .plain
  | _ => classOther text

/-- The class of an argument before any divider. -/
def classOf (argument : String) : ArgumentClass :=
  match argument.toList with
  | ['-', '-'] => .divider
  | '-' :: '-' :: rest => classLong ('-' :: '-' :: rest)
  | '-' :: rest => classShort ('-' :: rest)
  | _ => .plain

/-- Arguments with their classes. Behind a divider everything is plain. -/
def classify : List String → List (String × ArgumentClass)
  | [] => []
  | argument :: rest =>
    match classOf argument with
    | .divider => (argument, .divider) :: rest.map (·, .plain)
    | other => (argument, other) :: classify rest

/-! ## Reading -/

/-- What has been read of a command line. -/
structure Progress where
  /-- The program, if it was named already. -/
  program : Option String := none
  /-- What else was set. -/
  arguments : Arguments := { program := "" }
  /-- Whether something was left over. -/
  leftOver : Bool := false
  deriving Repr

/-- What a command line comes to. -/
inductive Reading where
  /-- It asks for help. -/
  | help
  /-- It makes no sense. -/
  | refused
  /-- It asks for a run. -/
  | run (arguments : Arguments)
  deriving DecidableEq, Repr

/-- Set a switch that needs a value. -/
def Arguments.setValue (arguments : Arguments) (switch : Switch) (value : String) : Arguments :=
  match switch with
  | .config => { arguments with config := some value }
  | .keys => { arguments with keys := value }
  | .logfile => { arguments with logfile := value }
  | _ => arguments

/-- Set a switch that needs no value. -/
def Arguments.setFlag (arguments : Arguments) (switch : Switch) : Arguments :=
  match switch with
  | .debug => { arguments with debug := true }
  | .console => { arguments with console := true }
  | _ => arguments

/-- Whether help with something joined to its short form is still heard: more of
the same letter is, and so are other letters, but neither a value nor a minus. -/
def helpIsHeard (joined : String) : Bool :=
  match joined.toList.dropWhile (· == 'h') with
  | [] => joined != ""
  | next :: _ => next != '=' && next != '-'

/-- What progress comes to at the end. -/
def Progress.finish (progress : Progress) : Reading :=
  match progress.program with
  | some program =>
    if progress.leftOver then .refused else .run { progress.arguments with program := program }
  | none => .refused

/-- Read classed arguments from left to right. -/
def readFrom (progress : Progress) : List (String × ArgumentClass) → Reading
  | [] => progress.finish
  | (_, .divider) :: (value, .plain) :: rest =>
    match progress.program with
    | none => readFrom { progress with program := some value } rest
    | some _ => .refused
  | (_, .divider) :: _ => .refused
  | [(value, .plain), (_, .divider)] =>
    match progress.program with
    | none => { progress with program := some value }.finish
    | some _ => .refused
  | (value, .plain) :: rest =>
    match progress.program with
    | none => readFrom { progress with program := some value } rest
    | some _ => readFrom { progress with leftOver := true } rest
  | (argument, .switch switch joined) :: rest =>
    match switch, joined with
    | .help, none => .help
    | .help, some text =>
      if argument.startsWith "--" then .refused
      else if helpIsHeard text then .help else .refused
    | _, some value =>
      if switch.takesValue then
        readFrom { progress with arguments := progress.arguments.setValue switch value } rest
      else .refused
    | _, none =>
      if switch.takesValue then
        match rest with
        | (value, .plain) :: more =>
          readFrom { progress with arguments := progress.arguments.setValue switch value } more
        | _ => .refused
      else readFrom { progress with arguments := progress.arguments.setFlag switch } rest
  | (_, .unknown) :: rest => readFrom { progress with leftOver := true } rest
  | (_, .ambiguous) :: _ => .refused

/-- Read a command line. -/
def read (arguments : List String) : Reading :=
  let classed := classify arguments
  if classed.any fun entry => entry.2 == .ambiguous then .refused else readFrom {} classed

end Chip8.CommandLine
