/-
# Places in a document

Reading a document means moving a cursor over its characters. The cursor knows
its column, because in a document indentation decides what belongs to what.
Between tokens lie gaps of blanks, line breaks and comments. Tabs are no part of
a gap, so outside quotes and comments nothing can be read past a tab.

A line of three dashes or three dots at column zero marks where a document starts
or ends; no token reaches over such a mark.
-/

namespace Chip8.Yaml

/-- A place in a document: the characters still to read, and their column. -/
structure Cursor where
  /-- What is still to be read. -/
  rest : List Char
  /-- The column of the next character. -/
  column : Nat
  deriving DecidableEq, Repr

/-- Whether a character ends a line. -/
def isBreak (character : Char) : Bool :=
  character == '\n' || character.toNat == 0x2028 || character.toNat == 0x2029

/-- Whether a token can end here: at the end, or before white space. -/
def blankOrEnd : List Char → Bool
  | [] => true
  | character :: _ => character == ' ' || character == '\t' || isBreak character

namespace Cursor

/-- The cursor behind so many characters of one line. -/
def drop (cursor : Cursor) (count : Nat) : Cursor :=
  ⟨cursor.rest.drop count, cursor.column + count⟩

/-- Whether three given characters stand at column zero as a token of their own. -/
def isMark (cursor : Cursor) (character : Char) : Bool :=
  cursor.column == 0 && cursor.rest.take 3 == [character, character, character] &&
    blankOrEnd (cursor.rest.drop 3)

/-- Whether a document starts here. -/
def isStartMark (cursor : Cursor) : Bool := cursor.isMark '-'

/-- Whether a document ends here by a mark. -/
def isEndMark (cursor : Cursor) : Bool := cursor.isMark '.'

/-- Whether nothing more of the document follows. -/
def atEnd (cursor : Cursor) : Bool :=
  cursor.rest.isEmpty || cursor.isStartMark || cursor.isEndMark

end Cursor

/-- Skip a gap from a column on. The flag comes true when a line ended in it. -/
def skipGapFrom (inComment crossed : Bool) (column : Nat) : List Char → Cursor × Bool
  | [] => (⟨[], column⟩, crossed)
  | character :: rest =>
    if isBreak character then skipGapFrom false true 0 rest
    else if inComment then skipGapFrom true crossed (column + 1) rest
    else if character == ' ' then skipGapFrom false crossed (column + 1) rest
    else if character == '#' then skipGapFrom true crossed (column + 1) rest
    else (⟨character :: rest, column⟩, crossed)

/-- Skip a gap, and tell whether a line ended in it. -/
def Cursor.skipGap (cursor : Cursor) : Cursor × Bool :=
  skipGapFrom false false cursor.column cursor.rest

/-- Skip blanks on the same line. -/
def Cursor.skipBlanks (cursor : Cursor) : Cursor :=
  cursor.drop (cursor.rest.takeWhile (· == ' ')).length

/-- Skip white space over line ends, collecting the breaks, the latest first.
There is no way over the end or over a mark. -/
def skipBreaksFrom (white : Char → Bool) (column : Nat) (breaks : List Char) :
    List Char → Option (List Char × Cursor)
  | [] => none
  | character :: rest =>
    if isBreak character then
      let next : Cursor := ⟨rest, 0⟩
      if next.isStartMark || next.isEndMark then none
      else skipBreaksFrom white 0 (character :: breaks) rest
    else if white character then skipBreaksFrom white (column + 1) breaks rest
    else some (breaks.reverse, ⟨character :: rest, column⟩)

/-- What line breaks inside a scalar stand for: one alone for a blank, several for
all but the first. Only a line feed is lost. -/
def foldBreaks : List Char → List Char
  | ['\n'] => [' ']
  | '\n' :: more => more
  | breaks => breaks

end Chip8.Yaml
