/-
# The picture of a display

A display is written line by line from the top, and each line pixel by pixel from the left, with
one text for a lit pixel and another for a dark one. If the two texts are of one length, differ
and hold no line break, the picture can be read back: its line breaks are those between the
rows, and a line falls into blocks of that length, one for each pixel.

What is read back from one block is the pixel, and what is read back from all of them is the
display. So the three ways to look at a display agree: a pixel is what its block tells, the lit
pixels are as many as the lit blocks, and the picture tells apart whatever the pixels do.
-/

import Chip8.Proofs.Display.LitCount

namespace Chip8

/-- The lines of a text, in order. -/
def linesOf (text : String) : List (List Char) :=
  text.toList.splitOn '\n'

/-- The block number `place` of a line that is cut into blocks of one length. -/
def block (size place : Nat) (line : List Char) : List Char :=
  (line.drop (size * place)).take size

/-! ## Blocks of a line -/

section Blocks

variable {α : Type} {size : Nat} {piece : α → List Char}
  (sized : ∀ item, (piece item).length = size)

include sized

theorem length_flatMap_of_sized (items : List α) :
    (items.flatMap piece).length = items.length * size := by
  rw [List.length_flatMap]
  simp only [sized, List.map_const', List.sum_replicate, smul_eq_mul]

/-- Pieces of one length are the blocks of what they make together. -/
theorem block_flatMap {items : List α} {place : Nat} (inside : place < items.length) :
    block size place (items.flatMap piece) = piece items[place] := by
  induction items generalizing place with
  | nil => cases inside
  | cons item rest ih =>
    rw [block, List.flatMap_cons]
    cases place with
    | zero =>
      rw [Nat.mul_zero, List.drop_zero, List.take_left' (sized item)]
      rfl
    | succ place =>
      have behind : size * (place + 1) = (piece item).length + size * place := by
        rw [sized, Nat.mul_succ, Nat.add_comm]
      rw [behind, List.drop_length_add_append]
      exact ih (Nat.lt_of_succ_lt_succ inside)

end Blocks

/-! ## Pixels as texts -/

/-- A lit pixel is written as one text and a dark pixel as another, of the same length. -/
structure PixelTexts (lit dark : String) (size : Nat) : Prop where
  size_pos : 0 < size
  lit_length : lit.length = size
  dark_length : dark.length = size
  differ : lit ≠ dark
  lit_unbroken : '\n' ∉ lit.toList
  dark_unbroken : '\n' ∉ dark.toList

/-- A pixel as text. -/
def pixelText (lit dark : String) (pixel : Bool) : List Char :=
  (if pixel then lit else dark).toList

namespace PixelTexts

variable {lit dark : String} {size : Nat} (texts : PixelTexts lit dark size)

include texts

theorem length_pixelText (pixel : Bool) : (pixelText lit dark pixel).length = size := by
  rw [pixelText, String.length_toList]
  cases pixel with
  | true => exact texts.lit_length
  | false => exact texts.dark_length

theorem unbroken (pixel : Bool) : '\n' ∉ pixelText lit dark pixel := by
  cases pixel with
  | true => exact texts.lit_unbroken
  | false => exact texts.dark_unbroken

theorem pixelText_eq_lit_iff {pixel : Bool} :
    pixelText lit dark pixel = lit.toList ↔ pixel = true := by
  cases pixel with
  | true => simp [pixelText]
  | false =>
    simp only [pixelText, Bool.false_eq_true, if_false, iff_false]
    exact fun same => texts.differ (String.toList_inj.mp same).symm

/-- A row is read back from its blocks. -/
theorem map_block (row : List Bool) :
    ((List.range row.length).map fun place =>
      decide (block size place (row.flatMap (pixelText lit dark)) = lit.toList)) = row := by
  apply List.ext_getElem
  · rw [List.length_map, List.length_range]
  · intro place inside real
    rw [List.getElem_map, List.getElem_range, block_flatMap texts.length_pixelText real]
    simp only [texts.pixelText_eq_lit_iff, Bool.decide_eq_true]

theorem countP_block (row : List Bool) :
    ((List.range row.length).countP fun place =>
      decide (block size place (row.flatMap (pixelText lit dark)) = lit.toList)) =
        row.count true := by
  have read := congrArg (List.count true) (texts.map_block row)
  rw [List.count, List.countP_map] at read
  exact (List.countP_congr fun place _ => by simp).trans read

theorem eq_of_flatMap_eq {first second : List Bool} (long : first.length = second.length)
    (same : first.flatMap (pixelText lit dark) = second.flatMap (pixelText lit dark)) :
    first = second := by
  rw [← texts.map_block first, ← texts.map_block second, same, long]

end PixelTexts

namespace Display

variable {width height : Int} {lit dark : String} {size : Nat}

theorem toList_renderRow (lit dark : String) (row : List Bool) :
    (renderRow lit dark row).toList = row.flatMap (pixelText lit dark) := by
  rw [renderRow, String.toList_join, List.flatMap_map]
  rfl

/-! ## Lines of a picture -/

section Lines

variable (high : 0 < height) (texts : PixelTexts lit dark size) (display : Display width height)

include high texts

/-- The line breaks of a picture are those between its rows. -/
theorem linesOf_render :
    linesOf (display.render lit dark) =
      display.pixels.toList.map fun strip => strip.toList.flatMap (pixelText lit dark) := by
  have lines : (display.pixels.toList.map fun strip => renderRow lit dark strip.toList).map
      String.toList = display.pixels.toList.map fun strip =>
        strip.toList.flatMap (pixelText lit dark) := by
    rw [List.map_map]
    exact List.map_congr_left fun strip _ => toList_renderRow lit dark strip.toList
  rw [linesOf, render, String.toList_intercalate, lines]
  refine List.splitOn_intercalate '\n' ?_ ?_
  · intro line drawn broken
    obtain ⟨strip, _, rfl⟩ := List.mem_map.mp drawn
    obtain ⟨pixel, _, inside⟩ := List.mem_flatMap.mp broken
    exact texts.unbroken pixel inside
  · intro empty
    have none_left := congrArg List.length empty
    rw [List.length_map, Vector.length_toList, List.length_nil] at none_left
    omega

theorem length_linesOf_render : ((linesOf (display.render lit dark)).length : Int) = height := by
  rw [linesOf_render high texts, List.length_map, Vector.length_toList]
  omega

theorem length_of_mem_linesOf_render (wide : 0 < width) {line : List Char}
    (drawn : line ∈ linesOf (display.render lit dark)) : (line.length : Int) = width * size := by
  rw [linesOf_render high texts] at drawn
  obtain ⟨strip, _, rfl⟩ := List.mem_map.mp drawn
  rw [length_flatMap_of_sized texts.length_pixelText, Vector.length_toList, Int.natCast_mul,
    Int.toNat_of_nonneg (Int.le_of_lt wide)]

/-- The block of a pixel tells whether it is lit. -/
theorem block_linesOf_render (wide : 0 < width) {row column : Nat} {line : List Char}
    (drawn : (linesOf (display.render lit dark))[row]? = some line)
    (inside : (column : Int) < width) :
    ∃ shown, display.pixel column row = .ok shown ∧
      block size column line = pixelText lit dark shown := by
  rw [linesOf_render high texts, List.getElem?_map, Option.map_eq_some_iff] at drawn
  obtain ⟨strip, found, rfl⟩ := drawn
  obtain ⟨below, rfl⟩ := List.getElem?_eq_some_iff.mp found
  have inRow : column < width.toNat := by omega
  have inRows : row < height.toNat := by simpa using below
  have here : placeAt wide high column row = (⟨row, inRows⟩, ⟨column, inRow⟩) :=
    placeAt_self wide high (⟨row, inRows⟩, ⟨column, inRow⟩)
  refine ⟨display.litAt (⟨row, inRows⟩, ⟨column, inRow⟩), ?_, ?_⟩
  · rw [pixel, dif_pos ⟨wide, high⟩, isLit_eq_litAt display wide high, here]
  · rw [block_flatMap texts.length_pixelText (by simpa using inRow)]
    simp [litAt]

theorem litCount_eq_sum_blocks :
    display.litCount = ((linesOf (display.render lit dark)).map fun line =>
      (List.range width.toNat).countP fun column =>
        decide (block size column line = lit.toList)).sum := by
  rw [linesOf_render high texts, litCount, List.count_flatMap, List.map_map]
  congr 1
  apply List.map_congr_left
  intro strip _
  have counted := texts.countP_block strip.toList
  rw [Vector.length_toList] at counted
  exact counted.symm

theorem render_eq_render_iff (other : Display width height) :
    display.render lit dark = other.render lit dark ↔ display.pixels = other.pixels := by
  constructor
  · intro same
    have lines := congrArg linesOf same
    rw [linesOf_render high texts, linesOf_render high texts] at lines
    have rows : Function.Injective fun strip : Vector Bool width.toNat =>
        strip.toList.flatMap (pixelText lit dark) := by
      intro first second drawn
      apply Vector.toList_inj.mp
      exact texts.eq_of_flatMap_eq (by rw [Vector.length_toList, Vector.length_toList]) drawn
    exact Vector.toList_inj.mp (List.map_injective_iff.mpr rows lines)
  · intro same
    rw [render, render, same]

end Lines

/-! ## Nothing is lost -/

/-- A picture has a line for each row and in it a block for each pixel, which is the lit text
if the pixel is lit and the dark text if not. So pictures of equally large displays are the same
only if the pixels are, and there are as many lit blocks as lit pixels. -/
theorem picture_tells_pixels (wide : 0 < width) (high : 0 < height)
    (texts : PixelTexts lit dark size) (display : Display width height) :
    let lines := linesOf (display.render lit dark)
    (lines.length : Int) = height ∧
    (∀ line ∈ lines, (line.length : Int) = width * size) ∧
    (∀ (row column : Nat) (line : List Char), lines[row]? = some line → (column : Int) < width →
      ∃ shown, display.pixel column row = .ok shown ∧
        block size column line = (if shown then lit else dark).toList) ∧
    (∀ other : Display width height,
      display.render lit dark = other.render lit dark ↔ display.pixels = other.pixels) ∧
    display.litCount = (lines.map fun line =>
      (List.range width.toNat).countP fun column =>
        decide (block size column line = lit.toList)).sum := by
  intro lines
  refine ⟨length_linesOf_render high texts display, ?_, ?_,
    render_eq_render_iff high texts display, litCount_eq_sum_blocks high texts display⟩
  · intro line
    exact length_of_mem_linesOf_render high texts display wide
  · intro row column line drawn inside
    exact block_linesOf_render high texts display wide drawn inside

/-- Three pixels of six are lit, and the texts are two characters each. The last block of the first
line shows that the pixel there is lit, and a dark display has another picture. -/
theorem picture_tells_pixels_in_brackets :
    let display := ((blank 3 2).blit (by decide) 0 0 [0xA0, 0x40]).display
    PixelTexts "[]" ".." 2 ∧
      (linesOf (display.render "[]" ".."))[0]? = some "[]..[]".toList ∧
      display.pixel 2 0 = .ok true ∧
      display.litCount = 3 ∧
      display.render "[]" ".." ≠ (blank 3 2).render "[]" ".." := by
  intro display
  have texts : PixelTexts "[]" ".." 2 := by
    constructor
    all_goals decide
  have drawn : (linesOf (display.render "[]" ".."))[0]? = some "[]..[]".toList := by
    decide +kernel
  obtain ⟨_, _, blocks, same, lit⟩ :=
    picture_tells_pixels (by decide) (by decide) texts display
  obtain ⟨shown, asked, written⟩ := blocks 0 2 _ drawn (by decide)
  have three : display.litCount = 3 := by
    rw [lit]
    decide +kernel
  refine ⟨texts, drawn, ?_, three, ?_⟩
  · cases shown with
    | true => exact asked
    | false => exact absurd written (by decide)
  · intro equal
    have count : display.litCount = (blank 3 2).litCount := by
      unfold litCount
      rw [(same (blank 3 2)).mp equal]
    rw [three] at count
    exact absurd count (by decide +kernel)

end Display

end Chip8
