/-
# Displays with sides of any sign

A side may be zero or negative, and then a display holds no pixels. Its type says so, and drawing
and reading are told to refuse by it. On a grid of lists nothing refuses: a coordinate is
reckoned by the sides as they are, the row is looked up and then the column, and each of these
steps may fail on its way. A remainder by zero fails; a remainder by a negative side is zero or
negative, and a negative position counts from the end of a list, so what fails then is that the
list is empty.

The main statement takes lists that only calls have changed, failed ones included. They are as
high and as wide as the sides say, a drawing or a reading fails exactly if it asks for a pixel
where there is none, the height comes before the width, and a drawing that fails has changed
nothing.
-/

import Chip8.Proofs.Raw.Headless
import Chip8.Proofs.Redraw

namespace Chip8

/-! ## The calls on lists -/

/-- The screen of a new display: every row dark and the flag down. -/
def RawScreen.dark (width height : Int) : RawScreen :=
  ⟨width, height, List.replicate height.toNat (List.replicate width.toNat false), false⟩

/-- The number of lit pixels, row by row. -/
def RawScreen.litCount (screen : RawScreen) : Nat :=
  (screen.pixels.map (List.count true)).sum

/-- A screen counts with these sides, and holds as many rows and pixels as they allow. -/
structure RawScreen.HasSides (screen : RawScreen) (width height : Int) : Prop where
  width_eq : screen.width = width
  height_eq : screen.height = height
  rows : (screen.pixels.length : Int) = max 0 height
  columns : ∀ strip ∈ screen.pixels, (strip.length : Int) = max 0 width

/-- What goes wrong on lists where a display tells this fault. -/
def GridFault.toRaw : GridFault → RawFault
  | zeroSide => .zeroDivisor
  | negativeSide => .noCell

namespace RawMachine

/-- Draw a sprite on the screen, bit by bit. -/
def draw (x y : Int) (rows : List Byte) : RawAction Bool :=
  layRows x y false 0 (rows.map fun bits => (bits.toNat : Int))

/-- Read a pixel of the screen. Its row is found before its column is reckoned. -/
def readPixel (x y : Int) : RawAction Bool := do
  let row ← remainder y (← get).screen.height
  let strip ← orFail .noCell (Cells.lookUp? (← get).screen.pixels row)
  let column ← remainder x (← get).screen.width
  orFail .noCell (Cells.lookUp? strip column)

/-- Make a call on the screen. -/
def call : Display.Call → RawAction Unit
  | .draw x y rows => discard (draw x y rows)
  | .clear => clearScreen
  | .clearRedraw => clearRedraw

/-- The machine after calls on its screen, each made as far as it goes. -/
def afterCalls (machine : RawMachine) (calls : List Display.Call) : RawMachine :=
  calls.foldl (fun machine made => left ((call made).run machine)) machine

/-- An action goes through unless it asks for a pixel where there is none. Then it fails, for the
height if that leaves no rows and otherwise for the width, and the machine is as it was. -/
structure FailsBySides {α : Type} (width height : Int) (asks : Prop) (action : RawAction α)
    (machine : RawMachine) : Prop where
  goesThrough : (asks → 0 < width ∧ 0 < height) →
    ∃ answer after, action.run machine = .ok answer after
  zeroHeight : asks → height = 0 → action.run machine = .error .zeroDivisor machine
  negativeHeight : asks → height < 0 → action.run machine = .error .noCell machine
  zeroWidth : asks → 0 < height → width = 0 → action.run machine = .error .zeroDivisor machine
  negativeWidth : asks → 0 < height → width < 0 → action.run machine = .error .noCell machine

end RawMachine

open RawMachine

/-! ## Steps that fail -/

section Steps

variable {width height : Int} {display : Display width height} {raw : RawMachine}

theorem run_remainder_of_ne {side : Int} (nonzero : side ≠ 0) (value : Int) (raw : RawMachine) :
    (remainder value side).run raw = .ok (value.fmod side) raw := by
  rw [remainder, if_neg nonzero]
  rfl

/-- An empty list has no cell at any position, counted from either end. -/
theorem lookUp?_nil {α : Type} (position : Int) : Cells.lookUp? ([] : List α) position = none := by
  rw [Cells.lookUp?, Option.bind_eq_none_iff]
  intro place _
  exact List.getElem?_nil

theorem Display.pixels_toRaw_of_low (low : height ≤ 0) (display : Display width height) :
    display.toRaw.pixels = [] := by
  apply List.eq_nil_of_length_eq_zero
  show (display.pixels.toList.map Vector.toList).length = 0
  rw [List.length_map, Vector.length_toList]
  omega

theorem toList_of_narrow (narrow : width ≤ 0) (strip : Vector Bool width.toNat) :
    strip.toList = [] := by
  apply List.eq_nil_of_length_eq_zero
  rw [Vector.length_toList]
  omega

@[simp] theorem orFail_none {α : Type} (fault : RawFault) :
    (orFail fault none : RawAction α) = fail fault := rfl

@[simp] theorem run_fail {α : Type} (fault : RawFault) (raw : RawMachine) :
    (fail fault : RawAction α).run raw = .error fault raw := rfl

theorem sideFault_of_high (high : 0 < height) :
    Display.sideFault width height = if width = 0 then .zeroSide else .negativeSide := by
  rw [Display.sideFault, if_neg (by omega), if_neg (by omega)]

end Steps

/-! ## Drawings and readings that fail -/

section Failures

variable {width height : Int} {display : Display width height} {raw : RawMachine}
  (shown : raw.screen = display.toRaw)

include shown

/-- Without rows the first row that is asked for is missed, before any column is reckoned. -/
theorem run_layRows_of_low (low : height ≤ 0) (x y : Int) (collision : Bool) (count : Nat)
    (bits : Int) (rest : List Int) :
    (layRows x y collision count (bits :: rest)).run raw =
      .error (Display.sideFault width height).toRaw raw := by
  have tall : raw.screen.height = height := congrArg RawScreen.height shown
  have empty : raw.screen.pixels = [] := by
    rw [shown, Display.pixels_toRaw_of_low low]
  simp only [layRows, EStateM.run_bind, EStateM.run_get, tall]
  by_cases zero : height = 0
  · subst zero
    rfl
  · simp only [run_remainder_of_ne zero, empty, lookUp?_nil, orFail_none, run_fail,
      Display.sideFault, if_neg zero, if_pos (show height < 0 by omega)]
    rfl

/-- Without columns the first bit of the first row fails, before anything is written. -/
theorem run_layRows_of_narrow (high : 0 < height) (narrow : width ≤ 0) (x y : Int)
    (collision : Bool) (count : Nat) (bits : Int) (rest : List Int) :
    (layRows x y collision count (bits :: rest)).run raw =
      .error (Display.sideFault width height).toRaw raw := by
  have tall : raw.screen.height = height := congrArg RawScreen.height shown
  have broad : raw.screen.width = width := congrArg RawScreen.width shown
  have strips : raw.screen.pixels = display.toRaw.pixels := congrArg RawScreen.pixels shown
  have eight : List.range 8 = 0 :: [1, 2, 3, 4, 5, 6, 7] := rfl
  simp only [layRows, EStateM.run_bind, EStateM.run_get, tall, run_remainder high, strips,
    lookUp?_pixels, orFail_some, EStateM.run_pure, eight, List.foldlM_cons, layBit, broad,
    sideFault_of_high high]
  by_cases zero : width = 0
  · subst zero
    rfl
  · simp only [run_remainder_of_ne zero, pixelAt, EStateM.run_bind, EStateM.run_get, strips,
      lookUp?_pixels, orFail_some, EStateM.run_pure, toList_of_narrow narrow, lookUp?_nil,
      orFail_none, run_fail, if_neg zero]
    rfl

theorem run_draw (x y : Int) (rows : List Byte) :
    (RawMachine.draw x y rows).run raw =
      match display.draw x y rows with
      | .ok drawing => .ok drawing.collision { raw with screen := drawing.display.toRaw }
      | .error fault => .error fault.toRaw raw := by
  rw [RawMachine.draw, Display.draw]
  cases rows with
  | nil =>
    show EStateM.Result.ok false raw = .ok false { raw with screen := display.toRaw }
    rw [← shown]
  | cons bits rest =>
    by_cases area : 0 < width ∧ 0 < height
    · have begun : raw.screen = (Display.Drawing.mk display false).display.toRaw := shown
      rw [if_neg (by simp), dif_pos area]
      exact run_layRows area (bits :: rest) begun x y 0
    · rw [if_neg (by simp), dif_neg area]
      rcases Int.lt_or_le 0 height with high | low
      · exact run_layRows_of_narrow shown high (by omega) x y false 0 _ _
      · exact run_layRows_of_low shown low x y false 0 _ _

theorem run_readPixel (x y : Int) :
    (readPixel x y).run raw =
      match display.pixel x y with
      | .ok lit => .ok lit raw
      | .error fault => .error fault.toRaw raw := by
  have tall : raw.screen.height = height := congrArg RawScreen.height shown
  have broad : raw.screen.width = width := congrArg RawScreen.width shown
  have strips : raw.screen.pixels = display.toRaw.pixels := congrArg RawScreen.pixels shown
  simp only [readPixel, EStateM.run_bind, EStateM.run_get, tall, Display.pixel]
  rcases Int.lt_or_le 0 height with high | low
  · simp only [run_remainder high, strips, lookUp?_pixels, orFail_some, EStateM.run_pure, broad]
    rcases Int.lt_or_le 0 width with wide | narrow
    · rw [dif_pos ⟨wide, high⟩]
      simp only [run_remainder wide, lookUp?_toList, orFail_some, EStateM.run_pure]
      rfl
    · rw [dif_neg (by omega), sideFault_of_high high]
      by_cases zero : width = 0
      · subst zero
        rfl
      · simp only [run_remainder_of_ne zero, toList_of_narrow narrow, lookUp?_nil, orFail_none,
          run_fail, if_neg zero]
        rfl
  · rw [dif_neg (by omega)]
    by_cases zero : height = 0
    · subst zero
      rfl
    · simp only [run_remainder_of_ne zero, strips, Display.pixels_toRaw_of_low low, lookUp?_nil,
        orFail_none, run_fail, Display.sideFault, if_neg zero, if_pos (show height < 0 by omega)]
      rfl

end Failures

/-! ## Calls one after another -/

theorem toRaw_blank (width height : Int) :
    (Display.blank width height).toRaw = RawScreen.dark width height := by
  simp [Display.toRaw, Display.blank, RawScreen.dark]

theorem left_discard {α : Type} (action : RawAction α) (raw : RawMachine) :
    left ((discard action).run raw) = left (action.run raw) := by
  show left (EStateM.map (fun _ => ()) action raw) = left (action raw)
  rw [EStateM.map]
  cases action raw with
  | _ => rfl

section Calls

variable {width height : Int} {display : Display width height} {raw : RawMachine}
  (shown : raw.screen = display.toRaw)

include shown

/-- A call that fails leaves the screen as it was, so a call leaves what it leaves of the
display. -/
theorem left_call (made : Display.Call) :
    left ((RawMachine.call made).run raw) = { raw with screen := (display.call made).toRaw } := by
  cases made with
  | draw x y rows =>
    have drawn := run_draw shown x y rows
    rw [Display.call]
    cases answer : display.draw x y rows with
    | ok drawing =>
      rw [answer] at drawn
      rw [RawMachine.call, left_discard, drawn]
      rfl
    | error fault =>
      rw [answer] at drawn
      rw [RawMachine.call, left_discard, drawn]
      show raw = { raw with screen := display.toRaw }
      rw [← shown]
  | clear =>
    rw [RawMachine.call, run_clearScreen shown]
    rfl
  | clearRedraw =>
    show { raw with screen := { raw.screen with redraw := false } } = _
    rw [shown]
    rfl

theorem afterCalls_eq (calls : List Display.Call) :
    raw.afterCalls calls = { raw with screen := (calls.foldl Display.call display).toRaw } := by
  induction calls generalizing raw display with
  | nil =>
    show raw = { raw with screen := display.toRaw }
    rw [← shown]
  | cons made rest ih =>
    show (left ((RawMachine.call made).run raw)).afterCalls rest = _
    rw [left_call shown, ih rfl]
    rfl

end Calls

/-! ## Sides of any sign -/

theorem hasSides_toRaw {width height : Int} (display : Display width height) :
    display.toRaw.HasSides width height where
  width_eq := rfl
  height_eq := rfl
  rows := by
    show ((display.pixels.toList.map Vector.toList).length : Int) = max 0 height
    rw [List.length_map, Vector.length_toList]
    omega
  columns := by
    intro strip member
    obtain ⟨pixels, _, rfl⟩ := List.mem_map.mp member
    rw [Vector.length_toList]
    omega

theorem Display.litCount_toRaw {width height : Int} (display : Display width height) :
    display.toRaw.litCount = display.litCount := by
  rw [RawScreen.litCount, Display.litCount, List.count_flatMap]
  show ((display.pixels.toList.map Vector.toList).map (List.count true)).sum = _
  rw [List.map_map]

theorem failsBySides {α : Type} {width height : Int} {asks : Prop} {action : RawAction α}
    {raw : RawMachine}
    (through : (asks → 0 < width ∧ 0 < height) → ∃ answer after, action.run raw = .ok answer after)
    (fails : asks → ¬ (0 < width ∧ 0 < height) →
      action.run raw = .error (Display.sideFault width height).toRaw raw) :
    FailsBySides width height asks action raw where
  goesThrough := through
  zeroHeight := by
    rintro asked rfl
    exact fails asked (by omega)
  negativeHeight := by
    intro asked negative
    rw [fails asked (by omega), Display.sideFault, if_neg (by omega), if_pos negative]
    rfl
  zeroWidth := by
    rintro asked high rfl
    rw [fails asked (by omega), sideFault_of_high high]
    rfl
  negativeWidth := by
    intro asked high negative
    rw [fails asked (by omega), sideFault_of_high high, if_neg (by omega)]
    rfl

/-- However calls have changed the screen of a machine, it is what they make of a display with
these sides, with as many rows and pixels as the sides allow. A drawing with rows and the reading
of a pixel go through exactly if both sides are positive, for any coordinates, and otherwise fail
by the sides and change nothing; a drawing without rows and all other calls go through. -/
theorem calls_fail_by_sides (width height : Int) (machine : RawMachine)
    (calls : List Display.Call) :
    let display := calls.foldl Display.call (Display.blank width height)
    let reached := RawMachine.afterCalls { machine with screen := .dark width height } calls
    reached.screen = display.toRaw ∧
    reached.screen.HasSides width height ∧
    (∀ (x y : Int) (rows : List Byte),
      FailsBySides width height (rows ≠ []) (RawMachine.draw x y rows) reached ∧
      (RawMachine.draw x y rows).run reached =
        match display.draw x y rows with
        | .ok drawing => .ok drawing.collision { reached with screen := drawing.display.toRaw }
        | .error fault => .error fault.toRaw reached) ∧
    (∀ x y : Int,
      FailsBySides width height True (readPixel x y) reached ∧
      (readPixel x y).run reached =
        match display.pixel x y with
        | .ok lit => .ok lit reached
        | .error fault => .error fault.toRaw reached) ∧
    clearScreen.run reached = .ok () { reached with screen := display.clear.toRaw } ∧
    (∀ lit dark : String, reached.screen.render lit dark = display.render lit dark) ∧
    reached.screen.litCount = display.litCount := by
  intro display reached
  have begun : ({ machine with screen := .dark width height } : RawMachine).screen =
      (Display.blank width height).toRaw := (toRaw_blank width height).symm
  have shown : reached.screen = display.toRaw := by
    rw [show reached = _ from afterCalls_eq begun calls]
  refine ⟨shown, ?_, ?_, ?_, run_clearScreen shown, ?_, ?_⟩
  · rw [shown]
    exact hasSides_toRaw display
  · intro x y rows
    have drawn := run_draw shown x y rows
    refine ⟨failsBySides ?_ ?_, drawn⟩
    · intro allowed
      rw [drawn, Display.draw]
      cases rows with
      | nil => exact ⟨_, _, rfl⟩
      | cons bits rest =>
        rw [if_neg (by simp), dif_pos (allowed (List.cons_ne_nil bits rest))]
        exact ⟨_, _, rfl⟩
    · intro asked missing
      rw [drawn, Display.draw, if_neg (by simpa using asked), dif_neg missing]
  · intro x y
    have read := run_readPixel shown x y
    refine ⟨failsBySides ?_ ?_, read⟩
    · intro allowed
      rw [read, Display.pixel, dif_pos (allowed trivial)]
      exact ⟨_, _, rfl⟩
    · intro _ missing
      rw [read, Display.pixel, dif_neg missing]
  · intro lit dark
    rw [shown, Display.render_toRaw]
  · rw [shown, Display.litCount_toRaw]

/-- Three rows of a negative width hold no pixel. A drawing there fails after a drawing that failed
and a clearing, and leaves what it found; without rows it goes through. No rows of any width
are asked for their height first. -/
theorem calls_fail_by_sides_around_no_pixels :
    let machine := (Machine.bare []).toRaw
    let narrow := RawMachine.afterCalls { machine with screen := .dark (-4) 3 }
      [.draw 1 (-7) [0x80], .clear]
    let low := RawMachine.afterCalls { machine with screen := .dark (-4) 0 } []
    narrow.screen.pixels.length = 3 ∧
      (RawMachine.draw 5 (-2) [0x00, 0x81]).run narrow = .error .noCell narrow ∧
      (∃ answer after, (RawMachine.draw 5 (-2) []).run narrow = .ok answer after) ∧
      (readPixel 9 9).run low = .error .zeroDivisor low := by
  intro machine narrow low
  obtain ⟨_, sides, drawings, _⟩ :=
    calls_fail_by_sides (-4) 3 machine [.draw 1 (-7) [0x80], .clear]
  obtain ⟨_, _, _, readings, _⟩ := calls_fail_by_sides (-4) 0 machine []
  refine ⟨Int.ofNat_inj.mp sides.rows, ?_, ?_, ?_⟩
  · exact (drawings 5 (-2) [0x00, 0x81]).1.negativeWidth (by decide) (by decide) (by decide)
  · exact (drawings 5 (-2) []).1.goesThrough fun asked => absurd rfl asked
  · exact (readings 9 9).1.zeroHeight trivial rfl

end Chip8
