/-
# A sprite on a display

A bit of a sprite has a row, counted from the top, and a column, counted from the most
significant bit. Drawn at some coordinates it falls on the pixel as many rows and columns
further on, where both axes wrap. Bits of one sprite fall on one pixel if the display is
narrower than eight pixels or lower than the sprite.

The main statement tells what a drawing leaves of any display at any coordinates: a pixel
changes if an odd number of set bits falls on it; the flag goes up for a set bit or a lit
pixel under any bit; and where no two bits can meet, the drawing tells whether a set bit fell
on a lit pixel. On grids that are mere lists of lists the drawing leaves the same, so no row
gets longer or shorter.
-/

import Chip8.Proofs.Display.Marks
import Chip8.Proofs.Raw.Simulation.Draw
import Mathlib.Data.Finset.Prod
import Mathlib.Data.List.ProdSigma

namespace Chip8

variable {width height : Int}

/-! ## Bits -/

/-- Whether a bit of a sprite is set. -/
def bitSet (rows : List Byte) (row column : Nat) : Bool :=
  (rows.getD row 0).toNat.testBit (7 - column)

/-- The bits of a sprite, each by its row and its column. -/
def spriteBits (rows : List Byte) : Finset (Nat × Nat) :=
  Finset.range rows.length ×ˢ Finset.range 8

/-- The bits that are set. -/
def setBits (rows : List Byte) : Finset (Nat × Nat) :=
  (spriteBits rows).filter fun bit => bitSet rows bit.1 bit.2

/-- The set bits that fall on the pixel at some coordinates if the sprite is drawn at `x`, `y`. -/
def setBitsOn (width height x y : Int) (rows : List Byte) (column row : Int) :
    Finset (Nat × Nat) :=
  (setBits rows).filter fun bit =>
    x + bit.2 ≡ column [ZMOD width] ∧ y + bit.1 ≡ row [ZMOD height]

theorem mem_spriteBits {rows : List Byte} {bit : Nat × Nat} :
    bit ∈ spriteBits rows ↔ bit.1 < rows.length ∧ bit.2 < 8 := by
  rw [spriteBits, Finset.mem_product, Finset.mem_range, Finset.mem_range]

theorem spriteCellsFrom_eq (start : Nat) (rows : List Byte) :
    spriteCellsFrom start rows =
      (List.range rows.length).flatMap fun row => spriteRow (start + row) (rows.getD row 0) := by
  induction rows generalizing start with
  | nil => rfl
  | cons bits rest ih =>
    rw [spriteCellsFrom, ih, List.length_cons, List.range_succ_eq_map (n := rest.length),
      List.flatMap_cons, List.flatMap_map]
    simp only [Nat.add_zero, List.getD_cons_zero, List.getD_cons_succ, Nat.add_assoc,
      Nat.add_comm 1]

namespace Display

/-- A bit of a sprite at wrapped coordinates as a mark. -/
def bitMark (wide : 0 < width) (high : 0 < height) (x y : Int) (rows : List Byte)
    (bit : Nat × Nat) : Mark width height :=
  ⟨placeAt wide high (x + bit.2) (y + bit.1), bitSet rows bit.1 bit.2⟩

section Marks

variable (wide : 0 < width) (high : 0 < height) (x y : Int) (rows : List Byte)

theorem marks_eq :
    marks wide high x y rows =
      (List.range rows.length ×ˢ List.range 8).map (bitMark wide high x y rows) := by
  show _ = ((List.range rows.length).flatMap fun row =>
    (List.range 8).map (Prod.mk row)).map (bitMark wide high x y rows)
  rw [marks, spriteCells, spriteCellsFrom_eq, List.map_flatMap, List.map_flatMap]
  simp only [spriteRow, List.map_map, Nat.zero_add]
  rfl

/-- Marks are counted by the bits they come from. -/
theorem countP_marks (counted : Mark width height → Bool) :
    (marks wide high x y rows).countP counted =
      ((spriteBits rows).filter fun bit => counted (bitMark wide high x y rows bit)).card := by
  calc (marks wide high x y rows).countP counted
    _ = (List.range rows.length ×ˢ List.range 8).countP
          fun bit => decide (counted (bitMark wide high x y rows bit) = true) := by
      rw [marks_eq, List.countP_map]
      exact List.countP_congr fun bit _ => by simp
    _ = ((spriteBits rows).filter fun bit => counted (bitMark wide high x y rows bit)).card := by
      rw [← Multiset.coe_countP, Multiset.countP_eq_card_filter, ← Multiset.coe_product]
      rfl

theorem any_marks (asked : Mark width height → Bool) :
    (marks wide high x y rows).any asked = true ↔
      ∃ bit ∈ spriteBits rows, asked (bitMark wide high x y rows bit) = true := by
  rw [marks_eq, List.any_map, List.any_eq_true]
  refine exists_congr fun bit => and_congr_left fun _ => ?_
  rw [mem_spriteBits, ← List.mem_range, ← List.mem_range]
  exact List.pair_mem_product

theorem countP_set_marks : (marks wide high x y rows).countP Mark.set = (setBits rows).card :=
  countP_marks wide high x y rows Mark.set

theorem count_marks (column row : Int) :
    (marks wide high x y rows).count ⟨placeAt wide high column row, true⟩ =
      (setBitsOn width height x y rows column row).card := by
  rw [List.count, countP_marks, setBitsOn, setBits, Finset.filter_filter]
  congr 2
  funext bit
  rw [beq_iff_eq, bitMark, Mark.mk.injEq, placeAt_eq_placeAt_iff, and_comm]

end Marks

/-! ## Bits that cannot meet -/

theorem eq_of_modEq_of_lt {side coordinate target : Int} {first second : Nat}
    (firstInside : (first : Int) < side) (secondInside : (second : Int) < side)
    (firstThere : coordinate + first ≡ target [ZMOD side])
    (secondThere : coordinate + second ≡ target [ZMOD side]) : first = second := by
  have same : (first : Int) ≡ second [ZMOD side] :=
    Int.ModEq.add_left_cancel' coordinate (firstThere.trans secondThere.symm)
  rw [Int.ModEq, Int.emod_eq_of_lt (Int.natCast_nonneg first) firstInside,
    Int.emod_eq_of_lt (Int.natCast_nonneg second) secondInside] at same
  exact Int.ofNat_inj.mp same

/-- On a display with room for the sprite no two of its bits fall on one pixel. -/
theorem card_setBitsOn_le_one {rows : List Byte} (across : 8 ≤ width)
    (down : (rows.length : Int) ≤ height) (x y column row : Int) :
    (setBitsOn width height x y rows column row).card ≤ 1 := by
  rw [Finset.card_le_one]
  intro first firstOn second secondOn
  obtain ⟨firstSet, firstColumn, firstRow⟩ := Finset.mem_filter.mp firstOn
  obtain ⟨secondSet, secondColumn, secondRow⟩ := Finset.mem_filter.mp secondOn
  obtain ⟨firstBelow, firstLeft⟩ := mem_spriteBits.mp (Finset.mem_of_mem_filter first firstSet)
  obtain ⟨secondBelow, secondLeft⟩ :=
    mem_spriteBits.mp (Finset.mem_of_mem_filter second secondSet)
  apply Prod.ext
  · exact eq_of_modEq_of_lt (by omega) (by omega) firstRow secondRow
  · exact eq_of_modEq_of_lt (by omega) (by omega) firstColumn secondColumn

/-- So an odd number of set bits on a pixel is one set bit. -/
theorem odd_card_setBitsOn_iff {rows : List Byte} (across : 8 ≤ width)
    (down : (rows.length : Int) ≤ height) (x y column row : Int) :
    Odd (setBitsOn width height x y rows column row).card ↔
      (setBitsOn width height x y rows column row).Nonempty := by
  have once := card_setBitsOn_le_one across down x y column row
  rw [← Finset.card_pos, Nat.odd_iff]
  omega

/-! ## Drawings -/

/-- What a drawing of a sprite at `x`, `y` makes of a display. -/
structure Overlaid (area : 0 < width ∧ 0 < height) (display : Display width height) (x y : Int)
    (rows : List Byte) (drawing : Drawing width height) : Prop where
  isLit : ∀ column row, drawing.display.isLit area column row =
    (display.isLit area column row ^^
      decide (Odd (setBitsOn width height x y rows column row).card))
  redraw : drawing.display.redraw = true ↔
    display.redraw = true ∨ (setBits rows).Nonempty ∨
      ∃ bit ∈ spriteBits rows, display.isLit area (x + bit.2) (y + bit.1) = true
  collision : 8 ≤ width → (rows.length : Int) ≤ height →
    (drawing.collision = true ↔
      ∃ bit ∈ setBits rows, display.isLit area (x + bit.2) (y + bit.1) = true)

theorem overlaid_blit (wide : 0 < width) (high : 0 < height) (display : Display width height)
    (x y : Int) (rows : List Byte) :
    Overlaid ⟨wide, high⟩ display x y rows (display.blit ⟨wide, high⟩ x y rows) where
  isLit := by
    intro column row
    rw [blit_eq wide high, isLit_eq_litAt _ wide high, isLit_eq_litAt _ wide high, litAt_touchAll,
      count_marks]
  redraw := by
    rw [blit_eq wide high, redraw_touchAll, Bool.or_eq_true, any_marks]
    simp only [Bool.or_eq_true, and_or_left, exists_or]
    refine or_congr_right (or_congr ?_ Iff.rfl)
    simp only [Finset.Nonempty, setBits, Finset.mem_filter]
    rfl
  collision := by
    intro across down
    have once (place : Place width height) :
        (marks wide high x y rows).count ⟨place, true⟩ ≤ 1 := by
      rw [← placeAt_self wide high place, count_marks]
      exact card_setBitsOn_le_one across down x y _ _
    rw [blit_eq wide high, decide_eq_true_iff, meetings_eq_countP once, countP_marks,
      Finset.card_pos]
    simp only [Finset.Nonempty, setBits, Finset.mem_filter, and_assoc]
    refine exists_congr fun bit => and_congr_right fun _ => ?_
    rw [meets, Bool.and_eq_true]
    rfl

/-- Going around the display any number of times leads back to where the sprite was. -/
theorem marks_add_mul (wide : 0 < width) (high : 0 < height) (x y across down : Int)
    (rows : List Byte) :
    marks wide high (x + across * width) (y + down * height) rows = marks wide high x y rows := by
  refine congrArg (List.map · (spriteCells rows)) (funext fun cell => ?_)
  rw [cellMark, cellMark, placeAt, placeAt, Int.add_right_comm x, Int.add_right_comm y,
    wrap_add_mul, wrap_add_mul]

end Display

/-! ## Shape -/

/-- A grid of lists holds as many rows as it counts with, and each row as many pixels. -/
structure RawScreen.Rectangular (screen : RawScreen) : Prop where
  rows : (screen.pixels.length : Int) = screen.height
  columns : ∀ strip ∈ screen.pixels, (strip.length : Int) = screen.width

namespace Display

theorem rectangular_toRaw (wide : 0 < width) (high : 0 < height)
    (display : Display width height) : display.toRaw.Rectangular where
  rows := by
    show ((display.pixels.toList.map Vector.toList).length : Int) = height
    rw [List.length_map, Vector.length_toList, Int.toNat_of_nonneg (Int.le_of_lt high)]
  columns := by
    intro strip member
    obtain ⟨pixels, _, rfl⟩ := List.mem_map.mp member
    show (pixels.toList.length : Int) = width
    rw [Vector.length_toList, Int.toNat_of_nonneg (Int.le_of_lt wide)]

/-- The same drawing on a grid whose rows are lists, which nothing keeps at their lengths, leaves
the same grid and tells the same, and the grid is as high and as wide as it was. -/
structure KeepsShape (display : Display width height) (x y : Int) (rows : List Byte)
    (drawing : Drawing width height) : Prop where
  onLists : ∀ raw : RawMachine, raw.screen = display.toRaw →
    (RawMachine.layRows x y false 0 (rows.map fun bits => (bits.toNat : Int))).run raw =
      .ok drawing.collision { raw with screen := drawing.display.toRaw }
  rectangular : drawing.display.toRaw.Rectangular

theorem keepsShape_blit (wide : 0 < width) (high : 0 < height) (display : Display width height)
    (x y : Int) (rows : List Byte) :
    KeepsShape display x y rows (display.blit ⟨wide, high⟩ x y rows) where
  onLists := by
    intro raw shown
    have begun : raw.screen = (Drawing.mk display false).display.toRaw := shown
    exact run_layRows ⟨wide, high⟩ rows begun x y 0
  rectangular := rectangular_toRaw wide high _

/-- Drawing is exclusive or on wrapped coordinates: it goes through on every display with
pixels, flips what an odd number of set bits falls on, tells what it touched and met, keeps the
shape, and is the same any number of times around the display. -/
theorem draw_flips_by_parity (wide : 0 < width) (high : 0 < height)
    (display : Display width height) (x y : Int) (rows : List Byte) :
    ∃ drawing, display.draw x y rows = .ok drawing ∧
      Overlaid ⟨wide, high⟩ display x y rows drawing ∧
      KeepsShape display x y rows drawing ∧
      ∀ across down : Int,
        display.draw (x + across * width) (y + down * height) rows = .ok drawing := by
  refine ⟨display.blit ⟨wide, high⟩ x y rows, ?_, overlaid_blit wide high display x y rows,
    keepsShape_blit wide high display x y rows, ?_⟩
  · rw [draw_eq wide high, blit_eq wide high]
  · intro across down
    rw [draw_eq wide high, marks_add_mul, blit_eq wide high]

/-- Eight set bits around a display of three pixels: the outer two are hit three times, the middle
one twice. On a lit display with room for it, the last bit of the second row meets a lit
pixel, from a place left of and above the display. -/
theorem draw_flips_by_parity_around_narrow_display :
    (∃ drawing, (blank 3 1).draw (-1) 5 [0xFF] = .ok drawing ∧
      (List.range 3).map (fun column => drawing.display.isLit (by decide) column 0) =
        [true, false, true]) ∧
    ∃ drawing, (⟨Vector.replicate 2 (Vector.replicate 8 true), false⟩ : Display 8 2).draw
        (-4) (-3) [0x00, 0x01] = .ok drawing ∧ drawing.collision = true := by
  refine ⟨?_, ?_⟩
  · obtain ⟨drawing, drawn, overlaid, _⟩ :=
      draw_flips_by_parity (by decide) (by decide) (blank 3 1) (-1) 5 [0xFF]
    refine ⟨drawing, drawn, ?_⟩
    simp only [overlaid.isLit]
    decide +kernel
  · obtain ⟨drawing, drawn, overlaid, _⟩ :=
      draw_flips_by_parity (by decide) (by decide)
        (⟨Vector.replicate 2 (Vector.replicate 8 true), false⟩ : Display 8 2) (-4) (-3)
        [0x00, 0x01]
    exact ⟨drawing, drawn,
      (overlaid.collision (by decide) (by decide)).mpr ⟨(1, 7), by decide +kernel, by decide⟩⟩

end Display

end Chip8
