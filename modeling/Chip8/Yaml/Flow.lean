/-
# Lists and mappings in brackets

Inside brackets and braces only punctuation counts; line ends and indentation do
not. An entry of a bracketed list may be a lone pair, which makes a mapping of
one entry. A key must be a scalar on one line, with its colon on the same line
and not more than 1024 characters away.
-/

import Chip8.Yaml.Plain
import Chip8.Yaml.Quoted
import Chip8.Yaml.Scalar

namespace Chip8.Yaml

/-- How far a colon may be from the start of its key. -/
def keyReach : Nat := 1024

/-- A scalar on one line as a key, with the place behind it. -/
def keyScalar? (setting : Setting) (cursor : Cursor) : Option (Value × Cursor) :=
  match cursor.rest.head?.bind QuoteStyle.ofMark? with
  | some style =>
    match quoted style cursor with
    | some (text, false, last) => some (.text (String.ofList text), last)
    | _ => none
  | none =>
    if startsPlain setting cursor.rest then
      let (line, last) := plainLine setting cursor
      (resolve true line.reverse).map (·, last)
    else none

/-- A key with its colon; the cursor returned stands behind the colon. -/
def key? (setting : Setting) (cursor : Cursor) : Option (Value × Cursor) :=
  match keyScalar? setting cursor with
  | none => none
  | some (key, last) =>
    let colon := last.skipBlanks
    match colon.rest with
    | ':' :: after =>
      if (setting == .flow || blankOrEnd after) && colon.column ≤ cursor.column + keyReach then
        some (key, colon.drop 1)
      else none
    | _ => none

/-- A scalar as a value. -/
def scalar (setting : Setting) (indent : Int) (cursor : Cursor) : Option (Value × Cursor) :=
  match cursor.rest.head?.bind QuoteStyle.ofMark? with
  | some style =>
    (quoted style cursor).map fun (text, _, last) => (.text (String.ofList text), last)
  | none =>
    if startsPlain setting cursor.rest then
      let (text, last) := plain setting indent cursor
      (resolve false text).map (·, last)
    else none

/-- Whether a flow entry is over here. -/
def flowEntryEnds (cursor : Cursor) : Bool :=
  match cursor.rest with
  | character :: _ => character == ',' || character == ']' || character == '\x7d'
  | [] => true

mutual

/-- A node inside brackets. The cursor stands at its first character. -/
def flowNode : Nat → Cursor → Option (Value × Cursor)
  | 0, _ => none
  | depth + 1, cursor =>
    match cursor.rest with
    | '[' :: _ => flowItems depth [] (cursor.drop 1)
    | '\x7b' :: _ => flowPairs depth [] (cursor.drop 1)
    | _ => if cursor.atEnd then none else scalar .flow 0 cursor

/-- The value behind a colon, or nothing. -/
def flowValue : Nat → Cursor → Option (Value × Cursor)
  | 0, _ => none
  | depth + 1, cursor =>
    let (next, _) := cursor.skipGap
    if flowEntryEnds next then some (.null, next) else flowNode depth next

/-- The rest of a bracketed list, behind its bracket or a comma. -/
def flowItems : Nat → List Value → Cursor → Option (Value × Cursor)
  | 0, _, _ => none
  | depth + 1, items, cursor =>
    let (next, _) := cursor.skipGap
    if next.atEnd then none
    else if next.rest.head? = some ']' then some (.list items.reverse, next.drop 1)
    else
      let item : Option (Value × Cursor) :=
        match key? .flow next with
        | some (key, after) =>
          (flowValue depth after).map fun (value, last) => (Value.mapping [(key, value)], last)
        | none => flowNode depth next
      match item with
      | none => none
      | some (value, last) =>
        let (mark, _) := last.skipGap
        match mark.rest with
        | ',' :: _ => flowItems depth (value :: items) (mark.drop 1)
        | ']' :: _ => some (.list (value :: items).reverse, mark.drop 1)
        | _ => none

/-- The rest of a mapping in braces, behind its brace or a comma. A key without a
colon has no value. -/
def flowPairs : Nat → Entries → Cursor → Option (Value × Cursor)
  | 0, _, _ => none
  | depth + 1, entries, cursor =>
    let (next, _) := cursor.skipGap
    if next.atEnd then none
    else if next.rest.head? = some '\x7d' then some (.mapping entries.reverse, next.drop 1)
    else
      let entry : Option ((Value × Value) × Cursor) :=
        match key? .flow next with
        | some (key, after) =>
          (flowValue depth after).map fun (value, last) => ((key, value), last)
        | none =>
          match flowNode depth next with
          | some (.list _, _) | some (.mapping _, _) | none => none
          | some (key, last) => some ((key, .null), last)
      match entry with
      | none => none
      | some (pair, last) =>
        let (mark, _) := last.skipGap
        match mark.rest with
        | ',' :: _ => flowPairs depth (pair :: entries) (mark.drop 1)
        | '\x7d' :: _ => some (.mapping (pair :: entries).reverse, mark.drop 1)
        | _ => none

end

/-- A list or mapping in brackets whose opening bracket stands here. -/
def flow (cursor : Cursor) : Option (Value × Cursor) :=
  flowNode (2 * cursor.rest.length + 2) cursor

end Chip8.Yaml
