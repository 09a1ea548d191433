/-
# Plain scalars

A plain scalar is text without quotes. It ends before a comment, before a colon
that ends a key, before a tab, and, inside brackets, before punctuation. It may
go on over line ends as long as the lines are indented deeply enough; inside
brackets any indentation will do.
-/

import Chip8.Yaml.Cursor

namespace Chip8.Yaml

/-- Whether text is read inside brackets or braces. -/
inductive Setting where
  /-- Outside all brackets. -/
  | block
  /-- Inside brackets or braces. -/
  | flow
  deriving DecidableEq, Repr

/-- The punctuation of bracketed lists and mappings. -/
def isFlowMark (character : Char) : Bool :=
  character == ',' || character == '[' || character == ']' || character == '\x7b' ||
    character == '\x7d'

/-- Characters that mean something else than themselves at the start of a token. -/
def isIndicator (character : Char) : Bool :=
  isFlowMark character || "#&*!|>'\"%@".toList.contains character || character.toNat == 0x60

/-- Whether a plain scalar can start here. -/
def startsPlain (setting : Setting) : List Char → Bool
  | [] => false
  | character :: rest =>
    if character == '-' then !blankOrEnd rest
    else if character == '?' || character == ':' then setting == .block && !blankOrEnd rest
    else !(blankOrEnd (character :: rest) || isIndicator character)

/-- Whether a colon here ends a key: white space follows it, or punctuation where
that counts. -/
def endsKey (setting : Setting) (afterColon : List Char) : Bool :=
  blankOrEnd afterColon || (setting == .flow && (afterColon.head?.map isFlowMark).getD false)

/-- Whether a plain scalar ends before a character. -/
def stopsPlain (setting : Setting) (character : Char) (rest : List Char) : Bool :=
  character == '\t' || isBreak character || (character == ':' && endsKey setting rest) ||
    (setting == .flow && (isFlowMark character || character == '?'))

/-- Read a plain scalar to the end of its line. `text` holds what was read so far,
the latest first, `last` the place behind it, and `blanks` counts the blanks
since. -/
def plainLineFrom (setting : Setting) (blanks : Nat) (text : List Char) (last : Cursor)
    (column : Nat) : List Char → List Char × Cursor
  | [] => (text, last)
  | character :: rest =>
    if character == ' ' then plainLineFrom setting (blanks + 1) text last (column + 1) rest
    else if stopsPlain setting character rest || (character == '#' && 0 < blanks) then (text, last)
    else
      plainLineFrom setting 0 (character :: (List.replicate blanks ' ' ++ text))
        ⟨rest, column + 1⟩ (column + 1) rest

/-- The part of a plain scalar on this line, the latest character first. -/
def plainLine (setting : Setting) (cursor : Cursor) : List Char × Cursor :=
  plainLineFrom setting 0 [] cursor cursor.column cursor.rest

/-- Whether a plain scalar goes on at the start of a later line. -/
def continuesPlain (setting : Setting) (indent : Int) (cursor : Cursor) : Bool :=
  match cursor.rest with
  | [] => false
  | character :: rest =>
    character != '#' && (setting == .flow || indent ≤ cursor.column) &&
      !stopsPlain setting character rest

/-- Read a plain scalar over at most so many lines. `text` holds what came before,
the latest first. -/
def plainWithin (setting : Setting) (indent : Int) : Nat → List Char → Cursor →
    List Char × Cursor
  | 0, text, cursor => (text, cursor)
  | lines + 1, text, cursor =>
    let (line, last) := plainLine setting cursor
    let soFar := line ++ text
    match skipBreaksFrom (· == ' ') last.column [] last.rest with
    | some (first :: more, next) =>
      if continuesPlain setting indent next then
        plainWithin setting indent lines ((foldBreaks (first :: more)).reverse ++ soFar) next
      else (soFar, last)
    | _ => (soFar, last)

/-- Read a plain scalar whose later lines are indented by `indent` at least. -/
def plain (setting : Setting) (indent : Int) (cursor : Cursor) : List Char × Cursor :=
  let (text, last) := plainWithin setting indent (cursor.rest.length + 1) [] cursor
  (text.reverse, last)

end Chip8.Yaml
