/-
# The monochrome display

A display is a grid of pixels that sprites are laid over by exclusive or. Both
axes wrap: a coordinate counts modulo the side. A sprite is a list of bytes, one
for each row of eight pixels, the most significant bit leftmost. It is drawn
cell by cell, so on a narrow display it may meet itself.

The sides are integers and belong to the type. A display with a side that is
zero or negative holds no pixels, and asking for one of its pixels is refused.

The redraw flag goes up when a drawing touches anything and when the display is
cleared. Only the host takes it down.
-/

import Chip8.Word

namespace Chip8

/-- A grid of pixels with its redraw flag. -/
structure Display (width height : Int) where
  /-- Rows from top to bottom, each from left to right; true is lit. -/
  pixels : Vector (Vector Bool width.toNat) height.toNat
  /-- Whether the host has something new to show. -/
  redraw : Bool

/-- Why a display cannot answer for a pixel. -/
inductive GridFault where
  /-- A side is zero, and no coordinate has a remainder by it. -/
  | zeroSide
  /-- A side is negative, and no coordinate lands on it. -/
  | negativeSide
  deriving DecidableEq, Repr

/-- The text of a grid fault. -/
def GridFault.message : GridFault → String
  | zeroSide => "integer modulo by zero"
  | negativeSide => "list index out of range"

/-- A coordinate on a side of positive length. -/
def wrap {side : Int} (positive : 0 < side) (coordinate : Int) : Fin side.toNat :=
  ⟨(coordinate % side).toNat, by
    have least := Int.emod_nonneg coordinate (Int.ne_of_gt positive)
    have most := Int.emod_lt_of_pos coordinate positive
    omega⟩

/-- One cell of a sprite: where it lies in the sprite, and whether it is set. -/
structure SpriteCell where
  /-- Distance from the left edge. -/
  column : Nat
  /-- Distance from the top edge. -/
  row : Nat
  /-- Whether the cell flips the pixel under it. -/
  set : Bool
  deriving DecidableEq, Repr

/-- The eight cells of one sprite row. -/
def spriteRow (row : Nat) (bits : Byte) : List SpriteCell :=
  (List.range 8).map fun column => ⟨column, row, bits.toNat.testBit (7 - column)⟩

/-- The cells of a sprite, whose first row lies at `row`. -/
def spriteCellsFrom (row : Nat) : List Byte → List SpriteCell
  | [] => []
  | bits :: rest => spriteRow row bits ++ spriteCellsFrom (row + 1) rest

/-- The cells of a sprite, row by row from the top and from the left. -/
def spriteCells (rows : List Byte) : List SpriteCell :=
  spriteCellsFrom 0 rows

namespace Display

variable {width height : Int}

/-- A dark display that needs no redraw. -/
def blank (width height : Int) : Display width height :=
  ⟨Vector.replicate _ (Vector.replicate _ false), false⟩

/-- Switch every pixel off. -/
def clear (_display : Display width height) : Display width height :=
  ⟨Vector.replicate _ (Vector.replicate _ false), true⟩

/-- The host has shown the display. -/
def clearRedraw (display : Display width height) : Display width height :=
  { display with redraw := false }

/-- The fault of a display without pixels. The height is asked first. -/
def sideFault (width height : Int) : GridFault :=
  if height = 0 then .zeroSide
  else if height < 0 then .negativeSide
  else if width = 0 then .zeroSide
  else .negativeSide

/-- Whether the pixel at a wrapped coordinate is lit. -/
def isLit (display : Display width height) (area : 0 < width ∧ 0 < height) (x y : Int) : Bool :=
  let column := wrap area.1 x
  let row := wrap area.2 y
  display.pixels[row][column]

/-- Read one pixel, or tell why there is none. -/
def pixel (display : Display width height) (x y : Int) : Except GridFault Bool :=
  if area : 0 < width ∧ 0 < height then .ok (display.isLit area x y)
  else .error (sideFault width height)

/-! ## Drawing -/

/-- A display in the middle of a drawing. -/
structure Drawing (width height : Int) where
  /-- The display so far. -/
  display : Display width height
  /-- Whether a set cell has met a lit pixel. -/
  collision : Bool

/-- Lay one sprite cell over the pixel it covers. The redraw flag goes up if the
cell is set or the pixel was lit. -/
def Drawing.lay (area : 0 < width ∧ 0 < height) (x y : Int) (drawing : Drawing width height)
    (cell : SpriteCell) : Drawing width height :=
  let column := wrap area.1 (x + cell.column)
  let row := wrap area.2 (y + cell.row)
  let strip := drawing.display.pixels[row]
  let old := strip[column]
  { display :=
      { pixels := drawing.display.pixels.set row (strip.set column (old ^^ cell.set))
        redraw := drawing.display.redraw || cell.set || old }
    collision := drawing.collision || (cell.set && old) }

/-- Lay a whole sprite over the display. -/
def blit (display : Display width height) (area : 0 < width ∧ 0 < height) (x y : Int)
    (rows : List Byte) : Drawing width height :=
  (spriteCells rows).foldl (Drawing.lay area x y) ⟨display, false⟩

/-- Draw a sprite, or tell why there is no place for it. A sprite without rows
can be drawn anywhere. -/
def draw (display : Display width height) (x y : Int) (rows : List Byte) :
    Except GridFault (Drawing width height) :=
  if rows.isEmpty then .ok ⟨display, false⟩
  else if area : 0 < width ∧ 0 < height then .ok (display.blit area x y rows)
  else .error (sideFault width height)

/-! ## Views -/

/-- The number of lit pixels. -/
def litCount (display : Display width height) : Nat :=
  (display.pixels.toList.flatMap fun strip => strip.toList).count true

/-- One row as text. -/
def renderRow (lit dark : String) (row : List Bool) : String :=
  String.join (row.map fun pixel => if pixel then lit else dark)

/-- The display as text, one line for each row. -/
def render (display : Display width height) (lit dark : String) : String :=
  "\n".intercalate (display.pixels.toList.map fun strip => renderRow lit dark strip.toList)

end Display

end Chip8
