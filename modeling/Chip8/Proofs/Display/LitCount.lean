/-
# What a drawing does to the number of lit pixels

A set mark on a dark pixel lights it, and on a lit pixel puts it out. So each set mark adds one
to the lit pixels or takes one away, and which of the two is decided when its turn comes.

The main statement is the balance of a drawing: every set bit of the sprite adds a lit pixel,
but for those that meet a lit one, each of which takes two off that sum. Hence the answer of a
drawing can be read off the numbers of lit pixels before and after, on every display.
-/

import Chip8.Proofs.Display.Sprite
import Mathlib.Algebra.BigOperators.Fin

namespace Chip8.Display

variable {width height : Int}

/-! ## Lit pixels -/

/-- The lit pixels. -/
def litPlaces (display : Display width height) : Finset (Place width height) :=
  Finset.univ.filter fun place => display.litAt place = true

@[simp] theorem mem_litPlaces {display : Display width height} {place : Place width height} :
    place ∈ display.litPlaces ↔ display.litAt place = true := by
  simp [litPlaces]

theorem count_true (pixels : List Bool) :
    pixels.count true = (pixels.map fun lit => if lit = true then 1 else 0).sum := by
  induction pixels with
  | nil => rfl
  | cons lit rest ih =>
    rw [List.count_cons, ih, List.map_cons, List.sum_cons, Nat.add_comm]
    cases lit <;> rfl

theorem sum_map_toList {α : Type} {count : Nat} (cells : Vector α count) (value : α → Nat) :
    (cells.toList.map value).sum = ∑ place : Fin count, value (cells.get place) := by
  have listed : cells.toList = List.ofFn fun place : Fin count => cells.get place := by
    rw [← Vector.toList_ofFn]
    exact congrArg Vector.toList Vector.ofFn_getElem.symm
  rw [listed, List.map_ofFn, List.sum_ofFn]
  rfl

/-- Counting the lit pixels row by row counts each of them once. -/
theorem litCount_eq_card (display : Display width height) :
    display.litCount = display.litPlaces.card := by
  calc display.litCount
    _ = (display.pixels.toList.map fun strip => strip.toList.count true).sum :=
      List.count_flatMap
    _ = ∑ row, ∑ column, if display.litAt (row, column) = true then 1 else 0 := by
      simp only [sum_map_toList, count_true]
      rfl
    _ = display.litPlaces.card := by
      rw [litPlaces, Finset.card_filter, Fintype.sum_prod_type]

/-! ## Marks -/

variable (display : Display width height)

theorem litPlaces_touch_of_unset {mark : Mark width height} (unset : mark.set = false) :
    (display.touch mark).litPlaces = display.litPlaces := by
  ext place
  rw [mem_litPlaces, mem_litPlaces, litAt_touch_of_unset display unset]

theorem litPlaces_touch_of_dark {place : Place width height}
    (dark : display.litAt place = false) :
    (display.touch ⟨place, true⟩).litPlaces = insert place display.litPlaces := by
  ext other
  rw [Finset.mem_insert, mem_litPlaces, mem_litPlaces, litAt_touch]
  by_cases here : other = place
  · subst here
    simp [dark]
  · simp [here, Ne.symm here]

theorem litPlaces_touch_of_lit {place : Place width height} (lit : display.litAt place = true) :
    (display.touch ⟨place, true⟩).litPlaces = display.litPlaces.erase place := by
  ext other
  rw [Finset.mem_erase, mem_litPlaces, mem_litPlaces, litAt_touch]
  by_cases here : other = place
  · subst here
    simp [lit]
  · simp [here, Ne.symm here]

theorem litCount_touch (mark : Mark width height) :
    (display.touch mark).litCount + 2 * (display.meets mark).toNat =
      display.litCount + mark.set.toNat := by
  obtain ⟨place, set⟩ := mark
  simp only [litCount_eq_card, meets]
  cases set with
  | false =>
    rw [litPlaces_touch_of_unset display rfl]
    rfl
  | true =>
    cases lit : display.litAt place with
    | false =>
      have absent : place ∉ display.litPlaces := by simp [lit]
      rw [litPlaces_touch_of_dark display lit, Finset.card_insert_of_notMem absent]
      rfl
    | true =>
      have present : place ∈ display.litPlaces := mem_litPlaces.mpr lit
      have erased := Finset.card_erase_add_one present
      rw [litPlaces_touch_of_lit display lit]
      simp only [Bool.and_self, Bool.toNat_true]
      omega

theorem litCount_touchAll (marks : List (Mark width height)) :
    (display.touchAll marks).litCount + 2 * display.meetings marks =
      display.litCount + marks.countP Mark.set := by
  induction marks generalizing display with
  | nil => rfl
  | cons mark rest ih =>
    have first := litCount_touch display mark
    have others := ih (display.touch mark)
    rw [touchAll_cons, meetings, List.countP_cons]
    cases set : mark.set with
    | _ =>
      rw [set] at first
      simp only [Bool.toNat_false, Bool.toNat_true, Bool.false_eq_true, if_true, if_false] at *
      omega

theorem meetings_le (marks : List (Mark width height)) :
    display.meetings marks ≤ marks.countP Mark.set := by
  induction marks generalizing display with
  | nil => exact Nat.le_refl 0
  | cons mark rest ih =>
    have others := ih (display.touch mark)
    rw [meetings, List.countP_cons, meets]
    cases mark.set with
    | false => simpa using others
    | true =>
      have one := Bool.toNat_le (display.litAt mark.place)
      simp only [Bool.true_and, if_true]
      omega

/-! ## Drawings -/

/-- The balance of a drawing: of the set bits as many as `meetings` counts find their pixel lit
when their turn comes and put it out, and the others light theirs. So the drawing has met
nothing if the lit pixels have grown by the set bits, and has met something if by less. -/
theorem litCount_draw (wide : 0 < width) (high : 0 < height) (x y : Int) (rows : List Byte) :
    ∃ drawing, display.draw x y rows = .ok drawing ∧
      let met := display.meetings (marks wide high x y rows)
      met ≤ (setBits rows).card ∧
      (drawing.display.litCount : Int) = display.litCount + (setBits rows).card - 2 * met ∧
      (drawing.collision = false ↔
        drawing.display.litCount = display.litCount + (setBits rows).card) ∧
      (drawing.collision = true ↔
        drawing.display.litCount < display.litCount + (setBits rows).card) := by
  have bounded := meetings_le display (marks wide high x y rows)
  have balance := litCount_touchAll display (marks wide high x y rows)
  rw [countP_set_marks] at bounded balance
  refine ⟨_, draw_eq wide high x y display rows, bounded, ?_, ?_, ?_⟩
  all_goals dsimp only
  · omega
  · rw [decide_eq_false_iff_not]
    omega
  · rw [decide_eq_true_iff]
    omega

/-- A single pixel takes all eight bits of a row: every second one finds it lit, and in the end
it is as dark as before. -/
theorem litCount_draw_on_single_pixel :
    ∃ drawing, (blank 1 1).draw 0 0 [0xFF] = .ok drawing ∧
      (drawing.display.litCount : Int) = 0 + 8 - 2 * 4 ∧ drawing.collision = true := by
  obtain ⟨drawing, drawn, _, balance, _, met⟩ :=
    litCount_draw (blank 1 1) (by decide) (by decide) 0 0 [0xFF]
  have bits : (setBits [0xFF]).card = 8 := by decide +kernel
  have meetings : (blank 1 1).meetings (marks (by decide) (by decide) 0 0 [0xFF]) = 4 := by
    decide +kernel
  have dark : (blank 1 1).litCount = 0 := by decide +kernel
  rw [bits, meetings, dark] at balance
  rw [bits, dark] at met
  refine ⟨drawing, drawn, balance, met.mpr ?_⟩
  omega

end Chip8.Display
