/-
# The program

The command line on real files: read the arguments, create the log file, look at
the files that are named, perform the session, and print. Configurations are read by
the project's own reader of documents.
-/

import Chip8.CommandLine.Session
import Chip8.Yaml.Document

namespace Chip8

/-- What a path of the file system names. The empty path is the working directory;
whatever is there and cannot be read is taken for a directory. -/
def lookUp (path : String) : IO PathTarget := do
  if path.isEmpty then return .directory
  if Files.isTooLong path then return .unreachable Files.tooLong
  try
    let bytes ← IO.FS.readBinFile path
    return .file bytes.toList
  catch problem =>
    match problem with
    | .noFileOrDirectory .. => return .missing
    | _ => return .directory

/-- A number that nobody can foresee. -/
def freshEntropy : IO Nat := do
  let bytes ← IO.getRandomBytes 32
  return bytes.toList.foldl (fun value byte => 256 * value + byte.toNat) 0

/-- Perform a session on the file system. -/
def performOnDisk (arguments : CommandLine.Arguments) : IO UInt32 := do
  IO.FS.writeFile arguments.logfile ""
  let configPath := arguments.config.getD ""
  let config ← lookUp configPath
  let program ← lookUp arguments.program
  let directory : Directory := fun path =>
    if path = arguments.program then program
    else if path = configPath then config
    else .missing
  let session := CommandLine.perform Yaml.parse arguments directory (← freshEntropy)
  IO.FS.writeFile arguments.logfile (session.logged arguments)
  IO.print (session.shown arguments)
  match session.ending with
  | .exit code => return code.toUInt32
  | .broken breakdown =>
    IO.eprintln breakdown.message
    return 1

end Chip8

/-- The program. -/
def main (arguments : List String) : IO UInt32 := do
  match Chip8.CommandLine.read arguments with
  | .help =>
    IO.print Chip8.CommandLine.helpText
    return 0
  | .refused =>
    IO.eprint Chip8.CommandLine.usageText
    return 2
  | .run parsed => Chip8.performOnDisk parsed
