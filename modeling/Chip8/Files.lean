/-
# Files of a directory

The program works in one directory and reads files by name. A name may be a path
with empty and `.` steps, which lead nowhere. What such a path names is a file,
a directory, or nothing. A directory exists but has no bytes to read. Some paths
cannot even be looked up: those that are too long, or for which the file system
refuses to say what they name.

`Files` is such a directory by its contents; `Directory` is anything that can
say what a path names.
-/

import Chip8.Text.Quoted
import Chip8.Word

namespace Chip8

/-- The files of the working directory, by name. -/
abbrev Files := List (String × List Byte)

/-- What a path names. -/
inductive PathTarget where
  /-- Nothing. -/
  | missing
  /-- A directory. -/
  | directory
  /-- A file with these bytes. -/
  | file (bytes : List Byte)
  /-- It cannot be looked up, for this reason. -/
  | unreachable (reason : String)
  deriving DecidableEq, Repr

namespace Files

/-- The steps of a path that lead somewhere. -/
def steps (path : String) : List (List Char) :=
  (path.toList.splitOn '/').filter fun step => step ≠ [] ∧ step ≠ ['.']

/-- A path without the steps that lead nowhere. -/
def tidy (path : String) : String :=
  let names := (steps path).map String.ofList
  if path.toList.head? = some '/' then "/" ++ "/".intercalate names
  else if names.isEmpty then "."
  else "/".intercalate names

/-- The number of bytes that characters take in a path. -/
def byteLength (text : List Char) : Nat :=
  text.foldl (fun total character => total + character.utf8Size) 0

/-- Whether a path is too long to be looked up, as a whole or in the first step that
leads into a directory. A path with a null character names nothing and is not looked
up at all. -/
def isTooLong (path : String) : Bool :=
  let downward := (steps path).dropWhile (· = ['.', '.'])
  !path.toList.contains (Char.ofNat 0) &&
    (decide (4095 < byteLength (tidy path).toList) ||
      downward.head?.any fun step => decide (255 < byteLength step))

/-- Why a path that is too long cannot be looked up. -/
def tooLong : String := "[Errno 36] File name too long"

/-- Why a directory cannot be read as a file. -/
def isADirectory (path : String) : String :=
  "[Errno 21] Is a directory: " ++ Text.quoted (tidy path)

/-- What a path names. -/
def target (files : Files) (path : String) : PathTarget :=
  if isTooLong path then .unreachable tooLong
  else match steps path with
  | [] => .directory
  | [name] =>
    if path.toList.head? = some '/' then .missing
    else if name = ['.', '.'] then .directory
    else
      match files.find? fun entry => entry.1 == String.ofList name with
      | some (_, bytes) => .file bytes
      | none => .missing
  | several =>
    if path.toList.head? ≠ some '/' ∧ several.all (· = ['.', '.']) then .directory else .missing

/-- The name under which a path can be written, if it names a file of the working
directory. -/
def writableName? (path : String) : Option String :=
  match steps path with
  | [name] =>
    if path.toList.head? = some '/' ∨ name = ['.', '.'] ∨ isTooLong path then none
    else some (String.ofList name)
  | _ => none

/-- Create a file, or replace its bytes. -/
def put (files : Files) (name : String) (bytes : List Byte) : Files :=
  (name, bytes) :: files.filter fun entry => entry.1 != name

end Files

/-- A directory to read from: what each path names. -/
abbrev Directory := String → PathTarget

end Chip8
