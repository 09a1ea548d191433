/-
# Drawing on integers

A raw machine draws a sprite bit by bit on lists whose lengths nothing guarantees.
If its screen is a screen written out, every row and column it asks for is there,
the rows keep their lengths, and the bits come out as the cells of the sprite laid
over the screen one after another.
-/

import Chip8.Proofs.Raw.Simulation.Host

namespace Chip8

open RawMachine

/-! ## One bit -/

section Bits

variable {width height : Int} (area : 0 < width ∧ 0 < height)

theorem run_remainder {side : Int} (positive : 0 < side) (coordinate : Int) (raw : RawMachine) :
    (remainder coordinate side).run raw = .ok ((wrap positive coordinate).val : Int) raw := by
  have least := Int.emod_nonneg coordinate (Int.ne_of_gt positive)
  have wrapped : ((wrap positive coordinate).val : Int) = coordinate.fmod side := by
    rw [Int.fmod_eq_emod_of_nonneg _ (Int.le_of_lt positive)]
    show ((coordinate % side).toNat : Int) = coordinate % side
    omega
  rw [remainder, if_neg (Int.ne_of_gt positive), wrapped]
  rfl

/-- A bit of a byte is set where halving the number often enough leaves it odd. -/
theorem odd_quotient_eq_testBit (byte : Byte) (place : Nat) :
    ((byte.toNat : Int) / 2 ^ place % 2 == 1) = byte.toNat.testBit place := by
  rw [Nat.testBit_eq_decide_div_mod_eq, Bool.beq_eq_decide_eq]
  have cast : (byte.toNat : Int) / 2 ^ place % 2 = ((byte.toNat / 2 ^ place % 2 : Nat) : Int) := by
    push_cast
    rfl
  rw [cast]
  exact decide_eq_decide.mpr (by omega)

variable {display : Display width height} {raw : RawMachine}

theorem lookUp?_pixels (row : Fin height.toNat) :
    Cells.lookUp? display.toRaw.pixels row.val = some display.pixels[row].toList :=
  lookUp?_toList_map display.pixels Vector.toList row.isLt

theorem run_pixelAt (shown : raw.screen = display.toRaw) (row : Fin height.toNat)
    (column : Fin width.toNat) :
    (pixelAt row.val column.val).run raw = .ok display.pixels[row][column] raw := by
  simp only [pixelAt, EStateM.run_bind, EStateM.run_get, shown, lookUp?_pixels, lookUp?_toList,
    orFail_some, EStateM.run_pure]

theorem run_setPixel (shown : raw.screen = display.toRaw) (row : Fin height.toNat)
    (column : Fin width.toNat) (lit : Bool) :
    (setPixel row.val column.val lit).run raw =
      .ok () { raw with
        screen :=
          { display with
            pixels := display.pixels.set row (display.pixels[row].set column lit) }.toRaw } := by
  have written := replace?_toList_map display.pixels Vector.toList row.isLt
    (display.pixels[row].set column lit)
  simp only [setPixel, EStateM.run_bind, EStateM.run_get, shown, lookUp?_pixels, replace?_toList,
    orFail_some, EStateM.run_pure]
  rw [show display.toRaw.pixels = display.pixels.toList.map Vector.toList from rfl, written]
  simp only [orFail_some, EStateM.run_pure, EStateM.run_modify, shown]
  rfl

theorem run_raiseRedraw (shown : raw.screen = display.toRaw) (touched : Bool) :
    (raiseRedraw touched).run raw =
      .ok () { raw with
        screen := { display with redraw := display.redraw || touched }.toRaw } := by
  cases touched with
  | true => simp [raiseRedraw, shown, Display.toRaw]
  | false => simp [raiseRedraw, ← shown]

theorem run_layBit {drawing : Display.Drawing width height}
    (shown : raw.screen = drawing.display.toRaw) (x y : Int) (row : Nat) (bits : Byte)
    (column : Nat) :
    (layBit x (wrap area.2 (y + row)).val bits.toNat drawing.collision column).run raw =
      .ok (drawing.lay area x y ⟨column, row, bits.toNat.testBit (7 - column)⟩).collision
        { raw with
          screen :=
            (drawing.lay area x y
              ⟨column, row, bits.toNat.testBit (7 - column)⟩).display.toRaw } := by
  simp only [layBit, EStateM.run_bind, EStateM.run_get, odd_quotient_eq_testBit]
  rw [show raw.screen.width = width from congrArg RawScreen.width shown, run_remainder area.1]
  simp only [run_pixelAt shown, run_raiseRedraw shown]
  rw [run_setPixel rfl]
  simp only [EStateM.run_pure, Display.Drawing.lay, Bool.or_assoc, Bool.xor]

/-! ## Whole sprites -/

/-- The bits of a row one after another are the cells of that row laid in turn. -/
theorem run_layBits (columns : List Nat) {drawing : Display.Drawing width height}
    {raw : RawMachine} (shown : raw.screen = drawing.display.toRaw) (x y : Int) (row : Nat)
    (bits : Byte) :
    (columns.foldlM (layBit x (wrap area.2 (y + row)).val bits.toNat) drawing.collision).run raw =
      .ok
        (columns.foldl (fun drawing column =>
          drawing.lay area x y ⟨column, row, bits.toNat.testBit (7 - column)⟩) drawing).collision
        { raw with
          screen := (columns.foldl (fun drawing column =>
            drawing.lay area x y
              ⟨column, row, bits.toNat.testBit (7 - column)⟩) drawing).display.toRaw } := by
  induction columns generalizing drawing raw with
  | nil =>
    simp only [List.foldlM_nil, EStateM.run_pure, List.foldl_nil, ← shown]
  | cons column rest ih =>
    simp only [List.foldlM_cons, EStateM.run_bind, run_layBit area shown, List.foldl_cons]
    rw [ih rfl]

theorem run_layRows (rows : List Byte) {drawing : Display.Drawing width height}
    {raw : RawMachine} (shown : raw.screen = drawing.display.toRaw) (x y : Int) (count : Nat) :
    (layRows x y drawing.collision count (rows.map fun byte => (byte.toNat : Int))).run raw =
      .ok ((spriteCellsFrom count rows).foldl (Display.Drawing.lay area x y) drawing).collision
        { raw with
          screen := ((spriteCellsFrom count rows).foldl
            (Display.Drawing.lay area x y) drawing).display.toRaw } := by
  induction rows generalizing drawing raw count with
  | nil => simp only [List.map_nil, layRows, EStateM.run_pure, spriteCellsFrom, List.foldl_nil,
      ← shown]
  | cons bits rest ih =>
    have tall : raw.screen.height = height := congrArg RawScreen.height shown
    have strips : raw.screen.pixels = drawing.display.toRaw.pixels :=
      congrArg RawScreen.pixels shown
    simp only [List.map_cons, layRows, EStateM.run_bind, EStateM.run_get, tall,
      run_remainder area.2, strips, lookUp?_pixels, orFail_some, EStateM.run_pure,
      run_layBits area _ shown]
    rw [ih rfl]
    simp only [spriteCellsFrom, spriteRow, List.foldl_append, List.foldl_map]

end Bits

/-- A drawing clears the flag, lays the sprite, and sets the flag if it met a lit
pixel; in the end the flag is as if it had been written once. -/
theorem run_drawSprite (machine : Machine) (x y : Byte) (rows : Nat) :
    (RawMachine.drawSprite x.toNat y.toNat rows).run machine.toRaw =
      (machine.drawSprite x y rows).toRaw fun _ => () := by
  have block := run_readBlock machine machine.index.toNat rows
  unfold RawMachine.drawSprite Machine.drawSprite
  simp only [EStateM.run_bind, EStateM.run_get]
  rw [show machine.toRaw.index = machine.index.toNat from rfl, block]
  cases machine.memory.readBlock machine.index.toNat rows with
  | error fault => rfl
  | ok sprite =>
    have area : 0 < (64 : Int) ∧ 0 < (32 : Int) := by decide
    have cleared : (RawMachine.setRegister 15 0).run machine.toRaw =
        .ok () (machine.setRegister 15 0).toRaw := run_setRegister machine 15 0
    have shown : (machine.setRegister 15 0).toRaw.screen =
        (Display.Drawing.mk machine.screen false).display.toRaw := rfl
    have drawn := run_layRows area sprite shown x.toNat y.toNat 0
    set drawing := machine.screen.blit area x.toNat y.toNat sprite with drawing_eq
    have whole : (spriteCellsFrom 0 sprite).foldl
        (Display.Drawing.lay area x.toNat y.toNat) ⟨machine.screen, false⟩ = drawing := rfl
    rw [whole] at drawn
    simp only [Outcome.toRaw_ok, cleared, drawn]
    cases met : drawing.collision with
    | false => rfl
    | true =>
      have flagged : (RawMachine.setRegister 15 1).run
          ({ machine.setRegister 15 0 with screen := drawing.display } : Machine).toRaw = _ :=
        run_setRegister _ 15 1
      rw [if_pos rfl]
      refine flagged.trans ?_
      simp only [Machine.setRegister, Vector.set_set]
      rfl

end Chip8
