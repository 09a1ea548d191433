/-
# Host operations on integers

Reading and writing memory, pushing and popping, ticking, keys, loading and
power-on do the same on a raw machine as on a machine: where the raw machine is a
machine written out, the outcome is the other outcome written out. In particular no
cell is missed, and every cut to a byte or a word is made where the types would
make it.
-/

import Chip8.Proofs.Memory
import Chip8.Proofs.Raw.View

namespace Chip8

open RawMachine

variable (machine : Machine)

/-! ## Outcomes written out -/

@[simp] theorem Outcome.toRaw_ok {α β : Type} (written : α → β) (answer : α)
    (events : List Event) :
    Outcome.toRaw written ⟨.ok answer, machine, events⟩ =
      .ok (written answer) machine.toRaw := rfl

@[simp] theorem orFail_some {α : Type} (fault : RawFault) (value : α) :
    orFail fault (some value) = pure value := rfl

/-! ## Registers -/

theorem run_register (position : Fin 16) :
    (register position.val).run machine.toRaw =
      .ok ((machine.registers.get position).toNat : Int) machine.toRaw := by
  have found := lookUp?_toList_map machine.registers (fun cell => (cell.toNat : Int)) position.isLt
  simp only [register, EStateM.run_bind, EStateM.run_get]
  simp only [Machine.toRaw, bytesOf, found, orFail_some, EStateM.run_pure]
  rfl

theorem run_setRegister (position : Fin 16) (value : Byte) :
    (RawMachine.setRegister position.val value.toNat).run machine.toRaw =
      .ok () (machine.setRegister position value).toRaw := by
  have written := replace?_toList_map machine.registers (fun cell => (cell.toNat : Int))
    position.isLt value
  simp only [RawMachine.setRegister, EStateM.run_bind, EStateM.run_get]
  simp only [Machine.toRaw, bytesOf, written, orFail_some, EStateM.run_pure, EStateM.run_modify]
  rfl

/-! ## Memory -/

theorem run_checkRange (address length : Int) (raw : RawMachine) :
    (checkRange address length).run raw =
      if InMemory address length then .ok () raw
      else .error (.refused (.outsideMemory address length)) raw := by
  unfold checkRange
  by_cases inside : InMemory address length
  · have kept : ¬ (address < 0 ∨ address + length > 4096) := by
      unfold InMemory at inside
      omega
    rw [if_neg kept, if_pos inside]
    rfl
  · have broken : address < 0 ∨ address + length > 4096 := by
      unfold InMemory at inside
      omega
    rw [if_pos broken, if_neg inside]
    rfl

theorem run_store {position : Nat} (inside : position < 4096) (value : Byte) :
    (store position value.toNat).run machine.toRaw =
      .ok () { machine with memory := machine.memory.setIfInBounds position value }.toRaw := by
  have same : machine.memory.setIfInBounds position value = machine.memory.set position value := by
    rw [← Vector.toList_inj, Vector.toList_setIfInBounds, Vector.toList_set]
  have written := replace?_toList_map machine.memory (fun cell => (cell.toNat : Int)) inside value
  have small : 0 ≤ (value.toNat : Int) ∧ (value.toNat : Int) < 256 := by
    have bound := value.toNat_lt
    omega
  simp only [store, EStateM.run_bind, EStateM.run_get]
  simp only [Machine.toRaw, bytesOf, written, orFail_some, EStateM.run_pure, if_pos small,
    EStateM.run_modify, same]

/-- Writing values one after another is overwriting with their low bits. -/
theorem run_storeFrom (values : List Int) {position : Nat}
    (inside : position + values.length ≤ 4096) :
    (storeFrom position values).run machine.toRaw =
      .ok () { machine with
        memory := machine.memory.overwrite position (values.map Byte.ofInt) }.toRaw := by
  induction values generalizing machine position with
  | nil => rfl
  | cons value rest ih =>
    rw [List.length_cons] at inside
    have here : position < 4096 := by omega
    have low : value % 256 = ((Byte.ofInt value).toNat : Int) := by
      rw [Byte.toNat_ofInt]
      omega
    have next : (position : Int) + 1 = ((position + 1 : Nat) : Int) := by omega
    rw [storeFrom, EStateM.run_bind, low, run_store machine here, next]
    simp only
    rw [ih _ (by omega)]
    rfl

theorem run_readByte (address : Int) :
    (readByte address).run machine.toRaw =
      Outcome.toRaw (fun byte => (byte.toNat : Int))
        ⟨machine.memory.read address, machine, []⟩ := by
  rw [readByte, EStateM.run_bind, run_checkRange, Memory.read]
  by_cases inside : InMemory address 1
  · obtain ⟨place, rfl⟩ := Int.eq_ofNat_of_zero_le inside.1
    have here : place < 4096 := by
      have last := inside.2
      omega
    have found := lookUp?_toList_map machine.memory (fun cell => (cell.toNat : Int)) here
    simp only [if_pos inside, EStateM.run_bind, EStateM.run_get]
    simp only [Machine.toRaw, bytesOf, found, orFail_some, EStateM.run_pure, Int.toNat_natCast,
      Memory.byteAt_of_lt machine.memory here, Outcome.toRaw_ok]
  · rw [if_neg inside, if_neg inside]
    rfl

/-- Where a block lies in memory, the stretch between its ends is the block. An end
before address zero counts from the end of memory on both sides. -/
theorem stretch_memory {address length : Int} (inside : InMemory address length) :
    Cells.stretch machine.toRaw.memory address (address + length) =
      (machine.memory.bytesFrom address.toNat
        (Memory.blockEnd address length - address.toNat)).map fun byte => (byte.toNat : Int) := by
  obtain ⟨start, rfl⟩ := Int.eq_ofNat_of_zero_le inside.1
  have last := inside.2
  have stop : Cells.clip 4096 (start + length) = Memory.blockEnd start length := by
    unfold Cells.clip Memory.blockEnd
    simp only
    split_ifs <;> omega
  have short : Memory.blockEnd start length ≤ 4096 := by
    rw [← stop, Cells.clip]
    omega
  rw [Cells.stretch, show machine.toRaw.memory = bytesOf machine.memory from rfl, length_bytesOf,
    stop, Cells.clip_natCast, Int.toNat_natCast, bytesOf, ← List.map_take, ← List.map_drop]
  apply congrArg
  rcases Nat.le_total start (Memory.blockEnd start length) with ordered | empty
  · have fits : start + (Memory.blockEnd start length - start) = Memory.blockEnd start length := by
      omega
    rw [Memory.bytesFrom_eq_drop_take _ (by omega), fits, Nat.min_eq_left (by omega)]
  · rw [Nat.sub_eq_zero_of_le empty, List.drop_of_length_le]
    · rfl
    · rw [List.length_take, Vector.length_toList]
      omega

theorem run_readBlock (address length : Int) :
    (readBlock address length).run machine.toRaw =
      Outcome.toRaw (fun bytes => bytes.map fun byte => (byte.toNat : Int))
        ⟨machine.memory.readBlock address length, machine, []⟩ := by
  rw [readBlock, EStateM.run_bind, run_checkRange, Memory.readBlock]
  by_cases inside : InMemory address length
  · simp only [if_pos inside, EStateM.run_bind, EStateM.run_get, EStateM.run_pure,
      stretch_memory machine inside, Outcome.toRaw_ok]
  · rw [if_neg inside, if_neg inside]
    rfl

theorem run_writeBlock (address : Int) (values : List Int) :
    (writeBlock address values).run machine.toRaw =
      (machine.takeMemory
        (machine.memory.writeBlock address (values.map Byte.ofInt))).toRaw fun _ => () := by
  rw [writeBlock, EStateM.run_bind, run_checkRange, Memory.writeBlock, List.length_map]
  by_cases inside : InMemory address values.length
  · obtain ⟨start, rfl⟩ := Int.eq_ofNat_of_zero_le inside.1
    have last := inside.2
    simp only [if_pos inside]
    rw [run_storeFrom machine values (by omega)]
    rfl
  · rw [if_neg inside, if_neg inside]
    rfl

theorem run_writeByte (address value : Int) :
    (writeByte address value).run machine.toRaw =
      (machine.takeMemory
        (machine.memory.write address (Byte.ofInt value))).toRaw fun _ => () := by
  have single : (writeByte address value).run machine.toRaw =
      (writeBlock address [value]).run machine.toRaw := by
    simp only [writeByte, writeBlock, storeFrom, EStateM.run_bind, EStateM.run_pure]
    rcases (checkRange address 1).run machine.toRaw with ⟨_, checked⟩ | ⟨fault, failed⟩
    · rcases stored : (store address (value % 256)).run checked with ⟨_, written⟩ | ⟨fault, failed⟩
      all_goals simp [stored]
    · rfl
  rw [single, run_writeBlock]
  rfl

theorem run_fetchWord (address : Int) :
    (fetchWord address).run machine.toRaw =
      Outcome.toRaw (fun word => (word.toNat : Int))
        ⟨machine.memory.fetch address, machine, []⟩ := by
  rw [fetchWord, EStateM.run_bind, run_checkRange, Memory.fetch]
  by_cases inside : InMemory address 2
  · obtain ⟨start, rfl⟩ := Int.eq_ofNat_of_zero_le inside.1
    have two : Memory.blockEnd start 2 - (start : Int).toNat = 2 := by
      simp only [Memory.blockEnd]
      split_ifs <;> omega
    simp only [if_pos inside, EStateM.run_bind, EStateM.run_get, stretch_memory machine inside,
      two, Memory.bytesFrom, List.range_succ, List.range_zero, List.nil_append, List.cons_append,
      List.map_cons, List.map_nil, EStateM.run_pure, Outcome.toRaw_ok, Word.toNat_ofBytes]
    push_cast
    rfl
  · rw [if_neg inside, if_neg inside]
    rfl

/-! ## The return stack, timers and keys -/

theorem run_push (value : Int) :
    (push value).run machine.toRaw = (machine.push value).toRaw id := by
  unfold push Machine.push ReturnStack.push
  simp only [EStateM.run_bind, EStateM.run_get]
  by_cases free : machine.stack.depth < 16
  · have room : ¬ machine.toRaw.depth ≥ 16 := by
      show ¬ (machine.stack.depth : Int) ≥ 16
      omega
    have low : value % 65536 = ((Word.ofInt value).toNat : Int) := by
      rw [Word.toNat_ofInt]
      omega
    have written := replace?_toList_map machine.stack.slots (fun slot => (slot.toNat : Int)) free
      (Word.ofInt value)
    rw [if_neg room, dif_pos free, low]
    simp only [EStateM.run_bind, EStateM.run_get]
    simp only [Machine.toRaw, wordsOf, written, orFail_some, EStateM.run_pure, EStateM.run_modify,
      Outcome.toRaw_ok]
    rfl
  · have full : machine.toRaw.depth ≥ 16 := by
      show (machine.stack.depth : Int) ≥ 16
      omega
    rw [if_pos full, dif_neg free]
    rfl

/-- A stack that is deeper than its slots would pop a slot that it does not have. -/
theorem run_pop (bounded : machine.stack.depth ≤ 16) :
    RawMachine.pop.run machine.toRaw = machine.pop.toRaw fun word => (word.toNat : Int) := by
  unfold RawMachine.pop Machine.pop ReturnStack.pop
  simp only [EStateM.run_bind, EStateM.run_get]
  by_cases live : 0 < machine.stack.depth
  · have some_live : ¬ machine.toRaw.depth ≤ 0 := by
      show ¬ (machine.stack.depth : Int) ≤ 0
      omega
    have top : machine.stack.depth - 1 < 16 := by omega
    have position : machine.toRaw.depth - 1 = ((machine.stack.depth - 1 : Nat) : Int) := by
      show (machine.stack.depth : Int) - 1 = _
      omega
    have found := lookUp?_toList_map machine.stack.slots (fun slot => (slot.toNat : Int)) top
    rw [if_neg some_live, dif_pos ⟨live, bounded⟩, position]
    simp only [EStateM.run_bind, EStateM.run_get, EStateM.run_modify]
    simp only [Machine.toRaw, wordsOf, found, orFail_some, EStateM.run_pure, Outcome.toRaw_ok]
  · have none_live : machine.toRaw.depth ≤ 0 := by
      show (machine.stack.depth : Int) ≤ 0
      omega
    have dead : ¬ (0 < machine.stack.depth ∧ machine.stack.depth ≤ 16) := by omega
    rw [if_pos none_live, dif_neg dead]
    rfl

/-- One less, but not less than zero, is the same for a byte and for its number. -/
theorem toNat_countDown (timer : Byte) :
    (((if timer = 0 then 0 else timer - 1 : Byte).toNat : Nat) : Int) =
      if (timer.toNat : Int) > 0 then (timer.toNat : Int) - 1 else timer.toNat := by
  by_cases zero : timer = 0
  · subst zero
    rfl
  · have positive : 0 < timer.toNat := by
      rcases Nat.eq_zero_or_pos timer.toNat with none | some
      · exact absurd (UInt8.toNat_inj.mp none) zero
      · exact some
    have one_le : (1 : Byte) ≤ timer := by
      rw [UInt8.le_iff_toNat_le]
      exact positive
    have running : (timer.toNat : Int) > 0 := by omega
    rw [if_neg zero, if_pos running, UInt8.toNat_sub_of_le _ _ one_le]
    show ((timer.toNat - 1 : Nat) : Int) = _
    omega

theorem run_tickTimers :
    RawMachine.tickTimers.run machine.toRaw = machine.tickTimers.toRaw id := by
  have delay := toNat_countDown machine.delay
  have sound := toNat_countDown machine.sound
  unfold RawMachine.tickTimers Machine.tickTimers
  rw [Outcome.toRaw_ok]
  simp only [Machine.toRaw, delay, sound]
  by_cases ticking : (machine.delay.toNat : Int) > 0
  all_goals by_cases sounding : (machine.sound.toNat : Int) > 0
  all_goals
    simp only [EStateM.run_bind, EStateM.run_get, EStateM.run_modify, EStateM.run_pure, ticking,
      sounding, ↓reduceIte]

theorem run_setKey (key : Int) (pressed : Bool) :
    (RawMachine.setKey key pressed).run machine.toRaw =
      (machine.setKey key pressed).toRaw id := by
  unfold RawMachine.setKey Machine.setKey Keypad.put
  by_cases real : 0 ≤ key ∧ key < 16
  · obtain ⟨place, rfl⟩ := Int.eq_ofNat_of_zero_le real.1
    have small : place < 16 := by omega
    have changed := Keypad.numbers_set machine.keypad small pressed
    rw [if_pos real, dif_pos real]
    simp only [EStateM.run_modify, Outcome.toRaw_ok, Machine.toRaw, Int.toNat_natCast, changed]
  · rw [if_neg real, dif_neg real]
    rfl

/-! ## The screen, programs and power-on -/

theorem mapM_darken {width : Int} {rows : List (Vector Bool width.toNat)} :
    (rows.map Vector.toList).mapM (darken width) =
      some (rows.map fun _ => List.replicate width.toNat false) := by
  have dark : ∀ row : Vector Bool width.toNat,
      darken width row.toList = some (List.replicate width.toNat false) := by
    intro row
    have wide : width ≤ (row.toList.length : Int) := by
      rw [Vector.length_toList]
      omega
    rw [darken, if_pos wide, List.drop_of_length_le (by simp), List.append_nil]
  induction rows with
  | nil => rfl
  | cons row rest ih => simp [List.mapM_cons, dark, ih]

theorem Display.toRaw_clear {width height : Int} (display : Display width height) :
    display.clear.toRaw =
      { display.toRaw with
        pixels := display.pixels.toList.map fun _ => List.replicate width.toNat false
        redraw := true } := by
  simp [Display.toRaw, Display.clear, List.map_const']

theorem run_clearScreen {width height : Int} {display : Display width height} {raw : RawMachine}
    (shown : raw.screen = display.toRaw) :
    clearScreen.run raw = .ok () { raw with screen := display.clear.toRaw } := by
  simp only [clearScreen, EStateM.run_bind, EStateM.run_get]
  rw [shown, Display.toRaw, mapM_darken]
  simp only [orFail_some, EStateM.run_pure, EStateM.run_modify]
  rw [Display.toRaw_clear]
  rfl

/-- Bytes that fit are put into memory without a change of its length. -/
theorem run_place {memory : Memory} {raw : RawMachine} (held : raw.memory = bytesOf memory)
    {start : Nat} {bytes : List Byte} (fits : start + bytes.length ≤ 4096) :
    (place start bytes).run raw =
      .ok () { raw with memory := bytesOf (memory.overwrite start bytes) } := by
  have ordered : start ≤ start + bytes.length := by omega
  have spliced := Cells.splice_natCast (bytesOf memory)
    (bytes.map fun byte => (byte.toNat : Int)) ordered
  rw [Nat.cast_add] at spliced
  simp only [place, EStateM.run_modify, held, spliced]
  simp only [bytesOf, Memory.toList_overwrite memory fits, List.map_append, List.map_take,
    List.map_drop]

theorem programLimit_fits {program : List Byte} (fits : program.length ≤ programLimit) :
    programStart + program.length ≤ 4096 := by
  unfold programLimit at fits
  unfold programStart
  omega

theorem run_load (program : List Byte) :
    (RawMachine.load program).run machine.toRaw = (machine.load program).toRaw id := by
  unfold RawMachine.load Machine.load
  by_cases fits : program.length ≤ programLimit
  · have kept : ¬ program.length > programLimit := by omega
    rw [if_neg kept, if_pos fits, EStateM.run_bind, run_place rfl (programLimit_fits fits)]
    rfl
  · have large : program.length > programLimit := by omega
    rw [if_pos large, if_neg fits]
    rfl

theorem run_placeIf {memory : Memory} {raw : RawMachine} (held : raw.memory = bytesOf memory)
    (wanted : Bool) {start : Nat} {bytes : List Byte} (fits : start + bytes.length ≤ 4096) :
    (placeIf wanted start bytes).run raw =
      .ok () { raw with
        memory := bytesOf (if wanted then memory.overwrite start bytes else memory) } := by
  unfold placeIf
  cases wanted with
  | true => exact run_place held fits
  | false =>
    rw [if_neg Bool.false_ne_true, if_neg Bool.false_ne_true, ← held]
    rfl

theorem bytesOf_zero : bytesOf Memory.zero = List.replicate 4096 0 := by
  rw [bytesOf, Memory.zero, Vector.toList_replicate, List.map_replicate]
  rfl

/-- A remembered program that once fitted still does, so memory comes out at its
length. -/
theorem run_refill {raw : RawMachine} (fits : raw.program.length ≤ programLimit) :
    refill.run raw =
      .ok () { raw with memory := bytesOf (Machine.initialMemory raw.settings raw.program) } := by
  have font : 0 + Font.glyphs.length ≤ 4096 := by decide
  have placed : ∀ memory : Memory,
      (if !raw.program.isEmpty then memory.overwrite programStart raw.program else memory) =
        memory.overwrite programStart raw.program := by
    intro memory
    cases raw.program <;> rfl
  rw [refill, EStateM.run_bind, EStateM.run_modify, ← bytesOf_zero]
  simp only [EStateM.run_bind, EStateM.run_get]
  rw [run_placeIf rfl _ font]
  simp only
  rw [run_placeIf rfl _ (programLimit_fits fits), placed]
  rfl

/-- Power-on looks at the settings, the remembered program and the screen; the rest
may be anything, in range or not. -/
theorem run_reset {raw : RawMachine} (bounded : machine.program.length ≤ programLimit)
    (settings : raw.settings = machine.settings) (program : raw.program = machine.program)
    (screen : raw.screen = machine.screen.toRaw) (random : raw.random = machine.random)
    (last : raw.last = machine.last) :
    RawMachine.reset.run raw = .ok () machine.reset.toRaw := by
  rw [← program] at bounded
  have shown : ∀ memory : List Int,
      (zeroCells { raw with memory := memory }).screen = machine.screen.toRaw := fun _ => screen
  simp only [RawMachine.reset, EStateM.run_bind, run_refill bounded, EStateM.run_modify,
    run_clearScreen (shown _)]
  simp only [RawMachine.clearRedraw, EStateM.run_modify]
  simp only [zeroCells, settings, program, random, last, Machine.reset, Machine.toRaw,
    ReturnStack.empty, Keypad.numbers_released, bytesOf, wordsOf, Vector.toList_replicate,
    List.map_replicate]
  rfl

/-- A machine before power-on comes out as a machine at power-on. -/
theorem reset_unpowered (settings : Settings) (random : Twister) :
    RawMachine.reset.run (unpowered settings random) =
      .ok () (Machine.powerOn settings random).toRaw := by
  have dark : (unpowered settings random).screen = (Display.blank 64 32).toRaw := by
    simp only [unpowered, Display.toRaw, Display.blank, Vector.toList_replicate,
      List.map_replicate]
    rfl
  exact run_reset (Machine.powerOn settings random) (Nat.zero_le _) rfl rfl dark rfl rfl

/-- Building a raw machine is building a machine and writing it out. -/
theorem build_eq (settings : Settings) (random : Twister) (program : List Byte) :
    RawMachine.build settings random program =
      (Machine.build settings random program).toRaw id := by
  rw [RawMachine.build, RawMachine.powerOn, EStateM.run_bind, reset_unpowered, Machine.build]
  by_cases empty : program.isEmpty
  · simp [empty]
  · simp [empty, run_load]

end Chip8
