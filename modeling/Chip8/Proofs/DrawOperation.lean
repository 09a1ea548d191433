/-
# Drawing by a program

The operation `draw` takes its sprite from memory at the index register, as many bytes as the
last nibble of its word says, and its coordinates from two registers. A sprite of at most
fifteen rows has room on the screen, so every set bit has a pixel of its own and flips it.

The main statement tells what the operation leaves in terms of registers and memory before it.
The coordinates are read before the flag register is written, and that register may be one or
both of them; what it held is not taken over into the flag.
-/

import Chip8.Proofs.Display.Sprite
import Chip8.Proofs.Machine.Writes
import Chip8.Proofs.Memory

namespace Chip8.Machine

theorem screen_area : 0 < (64 : Int) ∧ 0 < (32 : Int) := by decide

/-- Whether the pixel of the screen at wrapped coordinates is lit. -/
def lit (machine : Machine) (column row : Int) : Bool :=
  machine.screen.isLit screen_area column row

/-- Whether a bit of the bytes at the index register is set, the most significant bit leftmost. -/
def spriteBit (machine : Machine) (row column : Nat) : Bool :=
  (machine.memory.byteAt (machine.index.toNat + row)).toNat.testBit (7 - column)

/-- A set bit of a sprite drawn at `x`, `y` falls on a lit pixel. -/
def MeetsLit (machine : Machine) (x y : Byte) (rows : Nat) : Prop :=
  ∃ row < rows, ∃ column < 8,
    machine.spriteBit row column = true ∧ machine.lit (x.toNat + column) (y.toNat + row) = true

/-- What drawing so many rows at `x`, `y` makes of a machine. -/
structure DrawsSprite (before after : Machine) (x y : Byte) (rows : Nat) : Prop where
  flips : ∀ (column : Fin 64) (row : Fin 32),
    after.lit column.val row.val ≠ before.lit column.val row.val ↔
      ∃ bitRow < rows, ∃ bitColumn < 8, before.spriteBit bitRow bitColumn = true ∧
        (x.toNat + bitColumn) % 64 = column.val ∧ (y.toNat + bitRow) % 32 = row.val
  flag_of_met : before.MeetsLit x y rows → after.registers.get 15 = 1
  flag_of_clear : ¬ before.MeetsLit x y rows → after.registers.get 15 = 0
  redraw : after.screen.redraw = true ↔
    before.screen.redraw = true ∨ ∃ row < rows, ∃ column < 8,
      before.spriteBit row column = true ∨ before.lit (x.toNat + column) (y.toNat + row) = true
  memory : after.memory = before.memory
  index : after.index = before.index
  registers : ∀ register, register ≠ 15 →
    after.registers.get register = before.registers.get register
  unchanged_of_empty : rows = 0 → after.screen = before.screen ∧ after.registers.get 15 = 0

variable (machine : Machine)

/-- The bytes at the index register as a sprite. -/
def sprite (rows : Nat) : List Byte :=
  machine.memory.bytesFrom machine.index.toNat rows

section Bits

variable (rows : Nat) (holds : Nat → Nat → Prop)

/-- What holds of some bit of the sprite holds at some row and column. -/
theorem exists_spriteBit_iff :
    (∃ bit ∈ spriteBits (machine.sprite rows), holds bit.1 bit.2) ↔
      ∃ row < rows, ∃ column < 8, holds row column := by
  simp only [mem_spriteBits, sprite, Memory.length_bytesFrom, Prod.exists, and_assoc,
    exists_and_left]

theorem exists_setBit_iff :
    (∃ bit ∈ setBits (machine.sprite rows), holds bit.1 bit.2) ↔
      ∃ row < rows, ∃ column < 8, machine.spriteBit row column = true ∧ holds row column := by
  rw [← exists_spriteBit_iff]
  simp only [setBits, Finset.mem_filter, and_assoc]
  refine exists_congr fun bit => and_congr_right fun among => ?_
  have inside := (mem_spriteBits.mp among).1
  rw [sprite, Memory.length_bytesFrom] at inside
  rw [bitSet, sprite, Memory.getD_bytesFrom _ inside, spriteBit]

end Bits

theorem drawSprite_of_le (x y : Byte) {rows : Nat}
    (inside : machine.index.toNat + rows ≤ 4096) :
    machine.drawSprite x y rows =
      goOn
        { machine with
          screen := (machine.screen.blit screen_area x.toNat y.toNat (machine.sprite rows)).display
          registers := machine.registers.set 15
            (flagOf (machine.screen.blit screen_area x.toNat y.toNat
              (machine.sprite rows)).collision) } [] := by
  rw [drawSprite, Memory.readBlock_of_le _ inside]
  rfl

theorem meetsLit_iff {x y : Byte} {rows : Nat} :
    machine.MeetsLit x y rows ↔
      ∃ bit ∈ setBits (machine.sprite rows),
        machine.lit (x.toNat + bit.2) (y.toNat + bit.1) = true :=
  (exists_setBit_iff machine rows fun row column =>
    machine.lit (x.toNat + column) (y.toNat + row) = true).symm

theorem touched_iff (x y : Byte) (rows : Nat) :
    ((setBits (machine.sprite rows)).Nonempty ∨ ∃ bit ∈ spriteBits (machine.sprite rows),
      machine.lit (x.toNat + bit.2) (y.toNat + bit.1) = true) ↔
      ∃ row < rows, ∃ column < 8,
        machine.spriteBit row column = true ∨
          machine.lit (x.toNat + column) (y.toNat + row) = true := by
  have some_set : (setBits (machine.sprite rows)).Nonempty ↔
      ∃ row < rows, ∃ column < 8, machine.spriteBit row column = true := by
    simpa [Finset.Nonempty] using exists_setBit_iff machine rows fun _ _ => True
  have some_lit := exists_spriteBit_iff machine rows fun row column =>
    machine.lit (x.toNat + column) (y.toNat + row) = true
  rw [some_set, some_lit]
  simp only [← exists_or, ← and_or_left]

/-- A bit falls on a column or row of the screen if the remainder of its coordinate says so. -/
theorem falls_iff {side : Nat} (start offset : Nat) (target : Fin side) :
    (start : Int) + offset ≡ target.val [ZMOD side] ↔ (start + offset) % side = target.val := by
  rw [← Int.natCast_add, Int.natCast_modEq_iff, Nat.ModEq, Nat.mod_eq_of_lt target.isLt]

theorem setBitsOn_sprite_nonempty_iff (x y : Byte) (rows : Nat) (column : Fin 64)
    (row : Fin 32) :
    (setBitsOn 64 32 x.toNat y.toNat (machine.sprite rows) column.val row.val).Nonempty ↔
      ∃ bitRow < rows, ∃ bitColumn < 8, machine.spriteBit bitRow bitColumn = true ∧
        (x.toNat + bitColumn) % 64 = column.val ∧ (y.toNat + bitRow) % 32 = row.val := by
  have across := fun bitColumn => falls_iff x.toNat bitColumn column
  have down := fun bitRow => falls_iff y.toNat bitRow row
  rw [← exists_setBit_iff machine rows fun bitRow bitColumn =>
    (x.toNat + bitColumn) % 64 = column.val ∧ (y.toNat + bitRow) % 32 = row.val]
  simp only [Finset.Nonempty, setBitsOn, Finset.mem_filter]
  exact exists_congr fun bit =>
    and_congr_right fun _ => and_congr (across bit.2) (down bit.1)

theorem ne_iff_of_eq_xor {before after : Bool} {flipped : Prop} [Decidable flipped]
    (told : after = (before ^^ decide flipped)) : after ≠ before ↔ flipped := by
  rw [told]
  by_cases holds : flipped
  · cases before <;> simp [holds]
  · simp [holds]

theorem drawsSprite_drawSprite (x y : Byte) {rows : Nat} (few : rows ≤ 32)
    (inside : machine.index.toNat + rows ≤ 4096) :
    (machine.drawSprite x y rows).result = .ok .running ∧
      machine.DrawsSprite (machine.drawSprite x y rows).machine x y rows := by
  have untouched := fun register (apart : register ≠ 15) =>
    register_drawSprite machine x y rows apart
  have high : ((machine.sprite rows).length : Int) ≤ 32 := by
    rw [sprite, Memory.length_bytesFrom]
    omega
  have overlaid := Display.overlaid_blit screen_area.1 screen_area.2 machine.screen x.toNat
    y.toNat (machine.sprite rows)
  have met := (overlaid.collision (by decide) high).trans (meetsLit_iff machine).symm
  rw [drawSprite_of_le machine x y inside] at untouched ⊢
  refine ⟨rfl, ?_, ?_, ?_, ?_, rfl, rfl, untouched, ?_⟩
  · intro column row
    refine (ne_iff_of_eq_xor (overlaid.isLit column.val row.val)).trans ?_
    rw [Display.odd_card_setBitsOn_iff (by decide) high]
    exact setBitsOn_sprite_nonempty_iff machine x y rows column row
  · intro meets
    show (machine.registers.set 15 _)[15] = 1
    rw [Vector.getElem_set_self, met.mpr meets]
    rfl
  · intro clear
    show (machine.registers.set 15 _)[15] = 0
    rw [Vector.getElem_set_self, Bool.eq_false_of_not_eq_true (mt met.mp clear)]
    rfl
  · exact overlaid.redraw.trans (or_congr_right (touched_iff machine x y rows))
  · rintro rfl
    exact ⟨rfl, Vector.getElem_set_self _⟩

/-- Neither the counter nor the count of steps has a part in drawing. -/
theorem DrawsSprite.of_step {machine left : Machine} {x y : Byte} {rows : Nat}
    {operation : Operation} (drawn : machine.movedOn.DrawsSprite left x y rows) :
    machine.DrawsSprite (left.advance operation) x y rows where
  flips := drawn.flips
  flag_of_met := drawn.flag_of_met
  flag_of_clear := drawn.flag_of_clear
  redraw := drawn.redraw
  memory := drawn.memory
  index := drawn.index
  registers := drawn.registers
  unchanged_of_empty := drawn.unchanged_of_empty

/-- Where all its bytes lie in memory, a sprite is drawn, be the operation done by itself or by
a step: each set bit flips its own pixel, the flag register tells whether one of these was
lit, and nothing changes but that register and the screen. The coordinates are what the two
registers held before. A step that cannot be reported draws as well. -/
theorem draw_flips_sprite_bits :
    (∀ word : Word, machine.index.toNat + word.nibble ≤ 4096 →
      (exec .draw word machine).result = .ok .running ∧
        machine.DrawsSprite (exec .draw word machine).machine (machine.registers.get word.x)
          (machine.registers.get word.y) word.nibble) ∧
    (machine.Next .draw → machine.index.toNat + machine.nextWord.nibble ≤ 4096 →
      machine.step.result = machine.stepAnswer .running ∧
        machine.DrawsSprite machine.step.machine (machine.registers.get machine.nextWord.x)
          (machine.registers.get machine.nextWord.y) machine.nextWord.nibble) := by
  have done (before : Machine) (word : Word) (inside : before.index.toNat + word.nibble ≤ 4096) :
      (exec .draw word before).result = .ok .running ∧
        before.DrawsSprite (exec .draw word before).machine (before.registers.get word.x)
          (before.registers.get word.y) word.nibble := by
    have few : word.nibble ≤ 32 := Nat.le_trans (Nat.le_of_lt word.nibble_lt) (by decide)
    exact drawsSprite_drawSprite before _ _ few inside
  refine ⟨done machine, ?_⟩
  intro next inside
  obtain ⟨went, drawn⟩ := done machine.movedOn machine.nextWord inside
  rw [machine_step_of_done next went]
  exact ⟨result_step_of_done next went, drawn.of_step⟩

/-- On a lit screen the flag register holds 200 and is both coordinates, which so lie beyond
both sides. The first byte of the instruction itself is the sprite. Its first bit puts a pixel out,
its third leaves one alone, and the flag tells that it has met something. -/
theorem draw_flips_sprite_bits_at_flag_coordinates :
    let machine : Machine :=
      { bare [0xDF, 0xF1] with
        registers := Vector.ofFn fun register => if register = 15 then 200 else 0
        index := 0x200
        screen := ⟨Vector.replicate 32 (Vector.replicate 64 true), false⟩ }
    machine.Next .draw ∧ machine.index.toNat + machine.nextWord.nibble ≤ 4096 ∧
      machine.step.result = machine.stepAnswer .running ∧
      machine.step.machine.registers.get 15 = 1 ∧
      machine.step.machine.lit 8 8 ≠ machine.lit 8 8 ∧
      machine.step.machine.lit 10 8 = machine.lit 10 8 := by
  intro machine
  have next : machine.Next .draw := by decide +kernel
  have inside : machine.index.toNat + machine.nextWord.nibble ≤ 4096 := by decide +kernel
  obtain ⟨went, drawn⟩ := machine.draw_flips_sprite_bits.2 next inside
  refine ⟨next, inside, went, ?_, ?_, ?_⟩
  · exact drawn.flag_of_met ⟨0, by decide +kernel, 0, by decide, by decide +kernel⟩
  · exact (drawn.flips 8 8).mpr ⟨0, by decide +kernel, 0, by decide, by decide +kernel⟩
  · by_contra changed
    exact absurd ((drawn.flips 10 8).mp changed) (by decide +kernel)

end Chip8.Machine
