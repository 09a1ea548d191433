/-
# Documents

A file holds one document, as text in UTF-8. A mark of three dashes may start it
and a mark of three dots may end it. A file without a document holds nothing.
Line ends are line feeds, carriage returns, or both. A file with a control
character, or with more than one document, cannot be read.

This reader knows the notation only in part. Anchors, tags, block scalars, keys
behind a question mark, merged mappings and directives it cannot read, and a day
is a text to it. It is one parser among others: what is said of configurations in
files is said of any.
-/

import Chip8.Word
import Chip8.Yaml.Block

namespace Chip8.Yaml

/-- Whether a character may occur in a document at all. -/
def isAdmitted (character : Char) : Bool :=
  let point := character.toNat
  point == 9 || point == 10 || point == 13 || (0x20 ≤ point && point ≤ 0x7E) || point == 0x85 ||
    (0xA0 ≤ point && point ≤ 0xFFFD) || 0x10000 ≤ point

/-- Write every line end as a line feed. -/
def unifyLineEnds : List Char → List Char
  | [] => []
  | '\r' :: '\n' :: rest => '\n' :: unifyLineEnds rest
  | character :: rest =>
    (if character == '\r' || character.toNat == 0x85 then '\n' else character) ::
      unifyLineEnds rest

/-- Drop the mark of byte order. -/
def dropByteOrderMark : List Char → List Char
  | character :: rest => if character.toNat == 0xFEFF then rest else character :: rest
  | [] => []

/-- Whether nothing but gaps and end marks follows, at most so many marks. -/
def onlyEndMarks : Nat → Cursor → Bool
  | 0, _ => false
  | marks + 1, cursor =>
    let (next, _) := cursor.skipGap
    next.rest.isEmpty || (next.isEndMark && onlyEndMarks marks (next.drop 3))

/-- The one document from a place on. -/
def document (cursor : Cursor) : Option Value :=
  let (first, _) := cursor.skipGap
  if first.rest.isEmpty then some .null
  else
    let (start, fresh) :=
      if first.isStartMark then (first.drop 3).skipGap else (first, !first.isEndMark)
    let root :=
      if first.isStartMark && start.atEnd then some (Value.null, first.drop 3)
      else if first.isEndMark then none
      else topNode fresh start
    match root with
    | some (value, last) =>
      if onlyEndMarks (last.rest.length + 1) last then some value else none
    | none => none

/-- The document in a text, if the text holds one that can be read. -/
def ofText? (text : String) : Option Value :=
  if text.toList.all isAdmitted then
    document ⟨dropByteOrderMark (unifyLineEnds text.toList), 0⟩
  else none

/-- The document in a file. -/
def ofBytes? (bytes : List Byte) : Option Value :=
  (String.fromUTF8? ⟨bytes.toArray⟩).bind ofText?

/-- Read the document in a file. This reader tells no more than that there is none it can read. -/
def parse (bytes : List Byte) : Except String Value :=
  match ofBytes? bytes with
  | some document => .ok document
  | none => .error "the file holds no document that can be read"

end Chip8.Yaml
