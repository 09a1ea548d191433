/-
# Lists and mappings by indentation

Outside brackets indentation decides. The entries of a mapping stand in one
column, and so do the dashes of a list. What is indented more deeply belongs to
the entry above it; what is indented less deeply belongs further out. The dashes
of a list that is the value of a key may stand in the column of the key.

A mapping or a list can start only where a line starts, or behind a dash. So the
value on the line of its key is a scalar or stands in brackets.
-/

import Chip8.Yaml.Flow

namespace Chip8.Yaml

/-- Whether a list entry starts here. -/
def startsEntry : List Char → Bool
  | '-' :: rest => blankOrEnd rest
  | _ => false

/-- A node that is neither a mapping nor a list by indentation. -/
def inlineNode (parent : Int) (cursor : Cursor) : Option (Value × Cursor) :=
  match cursor.rest with
  | '[' :: _ | '\x7b' :: _ => flow cursor
  | _ => scalar .block (parent + 1) cursor

mutual

/-- A node that belongs to what stands in column `parent`. The cursor stands at
its first character. A collection by indentation is looked for only if `fresh`,
and a list in the parent's own column only if `hanging`. -/
def blockNode : Nat → Int → Bool → Bool → Cursor → Option (Value × Cursor)
  | 0, _, _, _, _ => none
  | depth + 1, parent, fresh, hanging, cursor =>
    if startsEntry cursor.rest then
      if !fresh then none
      else if parent < cursor.column then blockItems depth cursor.column false [] cursor
      else if hanging && parent == cursor.column then
        blockItems depth cursor.column true [] cursor
      else none
    else
      match (if fresh then key? .block cursor else none) with
      | some _ => blockPairs depth cursor.column [] cursor
      | none => inlineNode parent cursor

/-- The value of a key in a column, behind its colon. -/
def blockValue : Nat → Nat → Cursor → Option (Value × Cursor)
  | 0, _, _ => none
  | depth + 1, column, cursor =>
    let (next, crossed) := cursor.skipGap
    if next.atEnd then some (.null, cursor)
    else if !crossed then blockNode depth column false false next
    else if column < next.column then blockNode depth column true false next
    else if next.column == column && startsEntry next.rest then
      blockNode depth column true true next
    else some (.null, cursor)

/-- The rest of a mapping in a column, from a key on. -/
def blockPairs : Nat → Nat → Entries → Cursor → Option (Value × Cursor)
  | 0, _, _, _ => none
  | depth + 1, column, entries, cursor =>
    match key? .block cursor with
    | none => none
    | some (key, after) =>
      match blockValue depth column after with
      | none => none
      | some (value, last) =>
        let soFar := (key, value) :: entries
        let (next, crossed) := last.skipGap
        if next.atEnd then some (.mapping soFar.reverse, last)
        else if !crossed then none
        else if next.column == column then blockPairs depth column soFar next
        else if next.column < column then some (.mapping soFar.reverse, last)
        else none

/-- The rest of a list in a column, from a dash on. A hanging list also ends
before a key in its own column. -/
def blockItems : Nat → Nat → Bool → List Value → Cursor → Option (Value × Cursor)
  | 0, _, _, _, _ => none
  | depth + 1, column, hanging, items, cursor =>
    let after := cursor.drop 1
    let (start, startCrossed) := after.skipGap
    let item :=
      if start.atEnd || (startCrossed && start.column ≤ column) then some (Value.null, after)
      else blockNode depth column true false start
    match item with
    | none => none
    | some (value, last) =>
      let soFar := value :: items
      let (next, crossed) := last.skipGap
      if next.atEnd then some (.list soFar.reverse, last)
      else if !crossed then none
      else if next.column == column then
        if startsEntry next.rest then blockItems depth column hanging soFar next
        else if hanging then some (.list soFar.reverse, last)
        else none
      else if next.column < column then some (.list soFar.reverse, last)
      else none

end

/-- A node with nothing around it. -/
def topNode (fresh : Bool) (cursor : Cursor) : Option (Value × Cursor) :=
  blockNode (4 * cursor.rest.length + 4) (-1) fresh false cursor

end Chip8.Yaml
