/-
# Drawings in any order

A drawing reads the pixels that earlier drawings have left: whether it meets a lit pixel, and
whether a row without set bits raises the flag, depend on what was drawn before. What is left in
the end does not. The marks of all sprites together decide it, and of these only how often each
occurs counts: an odd number of flips changes a pixel, and one mark that touches something
raises the flag wherever it stands.

So drawings commute, and a drawing done twice cancels, whatever is drawn in between. That two
drawings of one sprite in a row cannot both meet nothing follows from the balance of lit
pixels, and needs no room for the sprite.
-/

import Chip8.Proofs.Display.LitCount

namespace Chip8

variable {width height : Int}

/-- A sprite with the coordinates where it is drawn. -/
structure Stamp where
  x : Int
  y : Int
  rows : List Byte

namespace Display

/-- The display after sprites drawn one after another, or why one of them has no place. -/
def drawAll (display : Display width height) : List Stamp → Except GridFault (Display width height)
  | [] => .ok display
  | stamp :: rest => do
    let drawing ← display.draw stamp.x stamp.y stamp.rows
    drawing.display.drawAll rest

/-- The marks of sprites drawn one after another. -/
def stampMarks (wide : 0 < width) (high : 0 < height) (stamps : List Stamp) :
    List (Mark width height) :=
  stamps.flatMap fun stamp => marks wide high stamp.x stamp.y stamp.rows

theorem drawAll_eq (wide : 0 < width) (high : 0 < height) (display : Display width height)
    (stamps : List Stamp) :
    display.drawAll stamps = .ok (display.touchAll (stampMarks wide high stamps)) := by
  induction stamps generalizing display with
  | nil => rfl
  | cons stamp rest ih =>
    rw [drawAll, draw_eq wide high]
    show (display.touchAll (marks wide high stamp.x stamp.y stamp.rows)).drawAll rest = _
    rw [ih, ← touchAll_append]
    rfl

/-! ## Marks in any order -/

variable (display : Display width height)

/-- Which marks there are decides what is left, and not their order. -/
theorem touchAll_eq_of_perm {first second : List (Mark width height)}
    (perm : first.Perm second) : display.touchAll first = display.touchAll second := by
  have pixels : (display.touchAll first).pixels = (display.touchAll second).pixels := by
    apply pixels_eq_of_litAt
    intro place
    rw [litAt_touchAll, litAt_touchAll, perm.count_eq]
  have redraw : (display.touchAll first).redraw = (display.touchAll second).redraw := by
    rw [redraw_touchAll, redraw_touchAll, perm.any_eq]
  calc display.touchAll first
    _ = ⟨(display.touchAll first).pixels, (display.touchAll first).redraw⟩ := rfl
    _ = ⟨(display.touchAll second).pixels, (display.touchAll second).redraw⟩ := by
      rw [pixels, redraw]
    _ = display.touchAll second := rfl

/-- Marks that are laid twice leave the pixels as if they were not laid at all, wherever they
stand among others. -/
theorem pixels_touchAll_twice (before twice between after : List (Mark width height)) :
    (display.touchAll (before ++ twice ++ between ++ twice ++ after)).pixels =
      (display.touchAll (before ++ between ++ after)).pixels := by
  apply pixels_eq_of_litAt
  intro place
  rw [litAt_touchAll, litAt_touchAll]
  congr 1
  rw [decide_eq_decide, Nat.odd_iff, Nat.odd_iff]
  simp only [List.count_append]
  omega

/-- Laid a second time, as many set marks meet a lit pixel as met a dark one the first time. -/
theorem meetings_twice (marks : List (Mark width height)) :
    display.meetings marks + (display.touchAll marks).meetings marks =
      marks.countP Mark.set := by
  have first := litCount_touchAll display marks
  have again := litCount_touchAll (display.touchAll marks) marks
  have pixels : ((display.touchAll marks).touchAll marks).pixels = display.pixels := by
    have twice := pixels_touchAll_twice display [] marks [] []
    rwa [List.nil_append, List.append_nil, List.append_nil, touchAll_append] at twice
  have back : ((display.touchAll marks).touchAll marks).litCount = display.litCount := by
    unfold litCount
    rw [pixels]
  omega

/-! ## Drawings -/

theorem drawings_cancel (wide : 0 < width) (high : 0 < height) (before between after : List Stamp)
    (stamp : Stamp) :
    ∃ twice without,
      display.drawAll (before ++ [stamp] ++ between ++ [stamp] ++ after) = .ok twice ∧
      display.drawAll (before ++ between ++ after) = .ok without ∧
      twice.pixels = without.pixels := by
  refine ⟨_, _, drawAll_eq wide high display _, drawAll_eq wide high display _, ?_⟩
  simp only [stampMarks, List.flatMap_append]
  exact pixels_touchAll_twice display _ _ _ _

/-- A sprite with a set bit may find all its pixels dark, but not when it is drawn again. -/
theorem draw_twice_meets (wide : 0 < width) (high : 0 < height) (stamp : Stamp)
    (lights : (setBits stamp.rows).Nonempty) :
    ∃ first second, display.draw stamp.x stamp.y stamp.rows = .ok first ∧
      first.display.draw stamp.x stamp.y stamp.rows = .ok second ∧
      (first.collision = true ∨ second.collision = true) := by
  refine ⟨_, _, draw_eq wide high _ _ display _, draw_eq wide high _ _ _ _, ?_⟩
  have bits := meetings_twice display (marks wide high stamp.x stamp.y stamp.rows)
  rw [countP_set_marks] at bits
  have some_bit := Finset.card_pos.mpr lights
  simp only [decide_eq_true_iff]
  omega

/-- Drawings in one order and in another leave the same pixels and the same flag; a drawing done
twice leaves the pixels as if it was done neither time; and a sprite that has a set bit and is
drawn twice in a row meets a lit pixel, also where it meets itself. -/
theorem drawings_commute_and_cancel (wide : 0 < width) (high : 0 < height) :
    (∀ first second : List Stamp, first.Perm second →
      ∃ left, display.drawAll first = .ok left ∧ display.drawAll second = .ok left) ∧
    (∀ (before between after : List Stamp) (stamp : Stamp), ∃ twice without,
      display.drawAll (before ++ [stamp] ++ between ++ [stamp] ++ after) = .ok twice ∧
      display.drawAll (before ++ between ++ after) = .ok without ∧
      twice.pixels = without.pixels) ∧
    ∀ stamp : Stamp, (setBits stamp.rows).Nonempty →
      ∃ first second, display.draw stamp.x stamp.y stamp.rows = .ok first ∧
        first.display.draw stamp.x stamp.y stamp.rows = .ok second ∧
        (first.collision = true ∨ second.collision = true) := by
  refine ⟨?_, drawings_cancel display wide high, draw_twice_meets display wide high⟩
  intro first second perm
  refine ⟨_, drawAll_eq wide high display first, ?_⟩
  have marksPerm : (stampMarks wide high first).Perm (stampMarks wide high second) :=
    perm.flatMap_right _
  rw [drawAll_eq wide high display second, touchAll_eq_of_perm display marksPerm]

/-- An empty row over dark pixels alone raises no flag, but over the pixels of another sprite it
does; drawn before that sprite or after it, the flag is up in the end. The sprite drawn once
more leaves a dark display, and its second drawing has met what the first lit. -/
theorem drawings_commute_and_cancel_around_empty_row :
    let sprite : Stamp := ⟨0, 0, [0xA0]⟩
    let empty : Stamp := ⟨-1, 0, [0x00]⟩
    (∃ left, (blank 8 1).drawAll [empty, sprite] = .ok left ∧
      (blank 8 1).drawAll [sprite, empty] = .ok left ∧ left.redraw = true) ∧
    (∃ left, (blank 8 1).drawAll [sprite, empty, sprite] = .ok left ∧
      left.pixels = (blank 8 1).pixels) ∧
    ∃ first second, (blank 8 1).draw 0 0 [0xA0] = .ok first ∧
      first.display.draw 0 0 [0xA0] = .ok second ∧
      (first.collision = true ∨ second.collision = true) := by
  intro sprite empty
  obtain ⟨commute, cancel, meets⟩ :=
    drawings_commute_and_cancel (blank 8 1) (by decide) (by decide)
  refine ⟨?_, ?_, ?_⟩
  · obtain ⟨left, before, after⟩ :=
      commute [empty, sprite] [sprite, empty] (List.Perm.swap sprite empty [])
    refine ⟨left, before, after, ?_⟩
    rw [drawAll_eq (by decide) (by decide)] at before
    rw [← Except.ok.inj before]
    decide +kernel
  · obtain ⟨twice, without, drawn, undrawn, same⟩ := cancel [] [empty] [] sprite
    refine ⟨twice, drawn, ?_⟩
    rw [drawAll_eq (by decide) (by decide)] at undrawn
    rw [same, ← Except.ok.inj undrawn]
    decide +kernel
  · exact meets sprite ⟨(0, 0), by decide +kernel⟩

end Display

end Chip8
