/-
# Drawing as laying marks

What a sprite cell does to a display depends on the pixel it covers and on whether the cell is
set, and on nothing else. So a sprite is a list of marks, and drawing lays them one after
another; a drawing after another lays the marks of both.

Marks are laid on pixels that earlier marks may have flipped, on a narrow display also marks of
the same sprite. The main statements nevertheless tell what is left from what there was before
the first mark: a pixel is flipped if the set marks on it are odd in number, and the flag goes
up if some mark is set or some pixel under a mark was lit. Only the meetings of set marks with
lit pixels have to be counted on the way.
-/

import Chip8.Display
import Mathlib.Algebra.Ring.Parity
import Mathlib.Data.Int.ModEq

namespace Chip8

variable {width height : Int}

theorem wrap_eq_wrap_iff {side : Int} (positive : 0 < side) {first second : Int} :
    wrap positive first = wrap positive second ↔ first ≡ second [ZMOD side] := by
  have least := Int.emod_nonneg first (Int.ne_of_gt positive)
  have others := Int.emod_nonneg second (Int.ne_of_gt positive)
  rw [Fin.ext_iff, Int.ModEq]
  show (first % side).toNat = (second % side).toNat ↔ _
  omega

/-- Going around a side any number of times leads back to the same place. -/
theorem wrap_add_mul {side : Int} (positive : 0 < side) (coordinate turns : Int) :
    wrap positive (coordinate + turns * side) = wrap positive coordinate := by
  rw [wrap_eq_wrap_iff, Int.ModEq, Int.add_mul_emod_self_right]

/-- A coordinate on the side stays where it is. -/
theorem wrap_val {side : Int} (positive : 0 < side) (coordinate : Fin side.toNat) :
    wrap positive coordinate.val = coordinate := by
  have bound := coordinate.isLt
  rw [Fin.ext_iff]
  show ((coordinate.val : Int) % side).toNat = coordinate.val
  rw [Int.emod_eq_of_lt (by omega) (by omega), Int.toNat_natCast]

namespace Display

/-- A pixel of a display by its row and its column. -/
abbrev Place (width height : Int) := Fin height.toNat × Fin width.toNat

/-- The pixel at wrapped coordinates. -/
def placeAt (wide : 0 < width) (high : 0 < height) (x y : Int) : Place width height :=
  (wrap high y, wrap wide x)

theorem placeAt_eq_placeAt_iff (wide : 0 < width) (high : 0 < height) {x y column row : Int} :
    placeAt wide high x y = placeAt wide high column row ↔
      x ≡ column [ZMOD width] ∧ y ≡ row [ZMOD height] := by
  rw [placeAt, placeAt, Prod.mk.injEq, wrap_eq_wrap_iff, wrap_eq_wrap_iff, and_comm]

/-- Every pixel lies at coordinates: its own. -/
theorem placeAt_self (wide : 0 < width) (high : 0 < height) (place : Place width height) :
    placeAt wide high place.2.val place.1.val = place :=
  Prod.ext (wrap_val high place.1) (wrap_val wide place.2)

/-- Whether a pixel is lit. -/
def litAt (display : Display width height) (place : Place width height) : Bool :=
  display.pixels[place.1][place.2]

theorem isLit_eq_litAt (display : Display width height) (wide : 0 < width) (high : 0 < height)
    (x y : Int) : display.isLit ⟨wide, high⟩ x y = display.litAt (placeAt wide high x y) := rfl

/-- The pixels tell all that two displays can differ in besides the flag. -/
theorem pixels_eq_of_litAt {first second : Display width height}
    (same : ∀ place, first.litAt place = second.litAt place) : first.pixels = second.pixels := by
  apply Vector.ext
  intro row inRows
  apply Vector.ext
  intro column inColumns
  exact same (⟨row, inRows⟩, ⟨column, inColumns⟩)

/-! ## Single marks -/

/-- A sprite cell laid over the pixel it covers. -/
structure Mark (width height : Int) where
  /-- The pixel under the cell. -/
  place : Place width height
  /-- Whether the cell flips it. -/
  set : Bool
  deriving DecidableEq

/-- The display after one mark. -/
def touch (display : Display width height) (mark : Mark width height) : Display width height :=
  { pixels := display.pixels.set mark.place.1
      (display.pixels[mark.place.1].set mark.place.2 (display.litAt mark.place ^^ mark.set))
    redraw := display.redraw || mark.set || display.litAt mark.place }

/-- A set mark meets a lit pixel. -/
def meets (display : Display width height) (mark : Mark width height) : Bool :=
  mark.set && display.litAt mark.place

/-- A mark flips its own pixel, if it is set, and no other. -/
theorem litAt_touch (display : Display width height) (mark : Mark width height)
    (place : Place width height) :
    (display.touch mark).litAt place = (display.litAt place ^^ decide (mark = ⟨place, true⟩)) := by
  obtain ⟨⟨markRow, markColumn⟩, set⟩ := mark
  obtain ⟨row, column⟩ := place
  simp only [litAt, touch, Fin.getElem_fin, Vector.getElem_set]
  by_cases sameRow : markRow = row
  · subst sameRow
    by_cases sameColumn : markColumn = column
    · subst sameColumn
      cases set <;> simp
    · have apart : markColumn.val ≠ column.val := fun same => sameColumn (Fin.ext same)
      simp [sameColumn, apart]
  · have apart : markRow.val ≠ row.val := fun same => sameRow (Fin.ext same)
    simp [sameRow, apart]

theorem litAt_touch_of_ne (display : Display width height) {mark : Mark width height}
    {place : Place width height} (other : mark ≠ ⟨place, true⟩) :
    (display.touch mark).litAt place = display.litAt place := by
  rw [litAt_touch, decide_eq_false other, Bool.xor_false]

theorem litAt_touch_of_unset (display : Display width height) {mark : Mark width height}
    (unset : mark.set = false) (place : Place width height) :
    (display.touch mark).litAt place = display.litAt place := by
  apply litAt_touch_of_ne
  rintro rfl
  cases unset

/-! ## Marks one after another -/

/-- The display after marks, the first in the list laid first. -/
def touchAll (display : Display width height) (marks : List (Mark width height)) :
    Display width height :=
  marks.foldl touch display

/-- How often a set mark meets a lit pixel when its turn comes. -/
def meetings (display : Display width height) : List (Mark width height) → Nat
  | [] => 0
  | mark :: rest => (display.meets mark).toNat + (display.touch mark).meetings rest

@[simp] theorem touchAll_nil (display : Display width height) : display.touchAll [] = display := rfl

@[simp] theorem touchAll_cons (display : Display width height) (mark : Mark width height)
    (rest : List (Mark width height)) :
    display.touchAll (mark :: rest) = (display.touch mark).touchAll rest := rfl

theorem touchAll_append (display : Display width height)
    (first second : List (Mark width height)) :
    display.touchAll (first ++ second) = (display.touchAll first).touchAll second :=
  List.foldl_append

/-- Two flips of one pixel leave it as it was, so it is enough to know whether the set marks
on it are odd in number. -/
theorem litAt_touchAll (display : Display width height) (marks : List (Mark width height))
    (place : Place width height) :
    (display.touchAll marks).litAt place =
      (display.litAt place ^^ decide (Odd (marks.count ⟨place, true⟩))) := by
  induction marks generalizing display with
  | nil => simp
  | cons mark rest ih =>
    rw [touchAll_cons, ih, litAt_touch, List.count_cons, Bool.xor_assoc]
    congr 1
    by_cases here : mark = ⟨place, true⟩
    · simp only [here, decide_true, beq_self_eq_true, if_true, Nat.odd_add_one, decide_not,
        Bool.true_xor]
    · simp [here]

/-- A set mark raises the flag whatever the marks before it did, and marks that are not set
leave the pixels for the later ones as they were. -/
theorem redraw_touchAll (display : Display width height) (marks : List (Mark width height)) :
    (display.touchAll marks).redraw =
      (display.redraw || marks.any fun mark => mark.set || display.litAt mark.place) := by
  induction marks generalizing display with
  | nil => simp
  | cons mark rest ih =>
    have raised : (display.touch mark).redraw =
        (display.redraw || (mark.set || display.litAt mark.place)) := Bool.or_assoc _ _ _
    rw [touchAll_cons, ih, raised, List.any_cons, Bool.or_assoc]
    cases set : mark.set with
    | true => simp
    | false => simp only [litAt_touch_of_unset display set]

/-- Where no pixel is flipped twice, each set mark finds what there was at the start. -/
theorem meetings_eq_countP {display : Display width height} {marks : List (Mark width height)}
    (once : ∀ place, marks.count ⟨place, true⟩ ≤ 1) :
    display.meetings marks = marks.countP display.meets := by
  induction marks generalizing display with
  | nil => rfl
  | cons mark rest ih =>
    have rest_once (place : Place width height) : rest.count ⟨place, true⟩ ≤ 1 :=
      Nat.le_trans (List.count_le_count_cons) (once place)
    have same : rest.countP (display.touch mark).meets = rest.countP display.meets := by
      apply List.countP_congr
      intro later member
      obtain ⟨place, set⟩ := later
      cases set with
      | false => rfl
      | true =>
        -- the same mark again would be a second one on this pixel
        have other : mark ≠ ⟨place, true⟩ := by
          rintro rfl
          have twice := once place
          have again := List.count_pos_iff.mpr member
          rw [List.count_cons_self] at twice
          omega
        rw [meets, meets, litAt_touch_of_ne display other]
    rw [meetings, ih rest_once, same, List.countP_cons, Nat.add_comm]
    cases display.meets mark <;> rfl

/-! ## Sprites as marks -/

section Sprites

variable (wide : 0 < width) (high : 0 < height) (x y : Int)

/-- A cell of a sprite at wrapped coordinates as a mark. -/
def cellMark (cell : SpriteCell) : Mark width height :=
  ⟨placeAt wide high (x + cell.column) (y + cell.row), cell.set⟩

/-- The marks of a sprite, in the order in which they are laid. -/
def marks (rows : List Byte) : List (Mark width height) :=
  (spriteCells rows).map (cellMark wide high x y)

theorem lay_eq (drawing : Drawing width height) (cell : SpriteCell) :
    drawing.lay ⟨wide, high⟩ x y cell =
      ⟨drawing.display.touch (cellMark wide high x y cell),
        drawing.collision || drawing.display.meets (cellMark wide high x y cell)⟩ := rfl

variable (display : Display width height) (rows : List Byte)

/-- A drawing lays its marks and tells whether a set one has met a lit pixel. -/
theorem blit_eq :
    display.blit ⟨wide, high⟩ x y rows =
      ⟨display.touchAll (marks wide high x y rows),
        0 < display.meetings (marks wide high x y rows)⟩ := by
  rw [blit, marks]
  generalize spriteCells rows = cells
  suffices laid : ∀ drawing : Drawing width height,
      cells.foldl (Drawing.lay ⟨wide, high⟩ x y) drawing =
        ⟨drawing.display.touchAll (cells.map (cellMark wide high x y)),
          drawing.collision ||
            0 < drawing.display.meetings (cells.map (cellMark wide high x y))⟩ by
    rw [laid, Bool.false_or]
  induction cells with
  | nil => simp [meetings]
  | cons cell rest ih =>
    intro drawing
    rw [List.foldl_cons, ih, lay_eq wide high, List.map_cons, touchAll_cons, meetings,
      Bool.or_assoc]
    congr 2
    cases drawing.display.meets (cellMark wide high x y cell) with
    | false => simp
    | true =>
      rw [Bool.true_or, Bool.toNat_true, decide_eq_true (Nat.add_pos_left Nat.one_pos _)]

/-- On a display with pixels every sprite has a place, also the one without rows. -/
theorem draw_eq :
    display.draw x y rows =
      .ok ⟨display.touchAll (marks wide high x y rows),
        0 < display.meetings (marks wide high x y rows)⟩ := by
  rw [← blit_eq, draw, dif_pos ⟨wide, high⟩]
  cases rows with
  | nil => rfl
  | cons bits rest => rfl

end Sprites

end Display

end Chip8
