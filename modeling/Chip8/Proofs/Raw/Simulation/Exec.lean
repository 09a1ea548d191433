/-
# Operations on integers

Every operation of a raw machine does what it does on the machine written out. An
operation that cuts its result must cut it to the same byte or word as the types
do; one that cuts nothing must have nothing to cut.
-/

import Chip8.Proofs.Raw.Simulation.Draw

namespace Chip8

open RawMachine

/-- The fields of a word are those that the word has anyway. -/
theorem RawFields.ofInt_toNat (word : Word) :
    RawFields.ofInt word.toNat =
      { x := word.x.val
        y := word.y.val
        nibble := word.nibble
        immediate := word.immediate.toNat
        address := word.address.toNat } := by
  have bound := word.toNat_lt
  have whole : (word.toNat : Int) % 65536 = word.toNat := by omega
  simp only [RawFields.ofInt, whole, Word.toNat_immediate, Word.toNat_address, Word.x, Word.y,
    Word.nibble]
  push_cast
  rfl

/-- The counter moves on by two, past the last word to the first one. -/
theorem cut_advance (counter : Word) :
    ((counter.toNat : Int) + 2) % 65536 = (counter + 2).toNat := by
  rw [UInt16.toNat_add]
  push_cast
  rfl

variable (machine : Machine)

/-! ## What an operation may do before it goes on -/

theorem goOn_setRegister {position : Fin 16} {number : Int} {byte : Byte}
    (cut : number = byte.toNat) :
    (do RawMachine.setRegister position.val number; return Status.running).run machine.toRaw =
      (Machine.goOn (machine.setRegister position byte) []).toRaw id := by
  rw [cut, EStateM.run_bind, run_setRegister]
  rfl

theorem goOn_setWithFlag {position : Fin 16} {number flagNumber : Int} {byte flag : Byte}
    (cut : number = byte.toNat) (flagged : flagNumber = flag.toNat) :
    (do RawMachine.setWithFlag position.val number flagNumber; return Status.running).run
        machine.toRaw =
      (Machine.goOn (machine.setWithFlag position byte flag) []).toRaw id := by
  have flag_written : (RawMachine.setRegister 15 flag.toNat).run
      (machine.setRegister position byte).toRaw = _ := run_setRegister _ 15 flag
  simp only [RawMachine.setWithFlag, cut, flagged, EStateM.run_bind, run_setRegister, flag_written]
  rfl

theorem goOn_jump {number : Int} {word : Word} (cut : number = word.toNat) :
    (do RawMachine.jump number; return Status.running).run machine.toRaw =
      (Machine.goOn { machine with counter := word } []).toRaw id := by
  rw [cut]
  rfl

theorem goOn_skipIf {test condition : Bool} (same : test = condition) :
    (do RawMachine.skipIf test; return Status.running).run machine.toRaw =
      (Machine.goOn (machine.skipIf condition) []).toRaw id := by
  subst same
  cases test with
  | false => rfl
  | true => exact goOn_jump machine (cut_advance machine.counter)

theorem goOn_pointAt {number : Int} {word : Word} (cut : number = word.toNat) :
    (do RawMachine.pointAt number; return Status.running).run machine.toRaw =
      (Machine.goOn { machine with index := word } []).toRaw id := by
  rw [cut]
  rfl

theorem goOn_goBack (bounded : machine.stack.depth ≤ 16) :
    (do RawMachine.goBack; return Status.running).run machine.toRaw = machine.goBack.toRaw id := by
  rw [EStateM.run_bind, RawMachine.goBack, EStateM.run_bind, run_pop machine bounded, Machine.pop,
    Machine.goBack]
  rcases machine.stack.pop with fault | ⟨target, stack⟩
  · rfl
  · rfl

theorem goOn_goAndRemember (target : Word) :
    (do RawMachine.goAndRemember target.toNat; return Status.running).run machine.toRaw =
      (machine.goAndRemember target).toRaw id := by
  simp only [EStateM.run_bind, RawMachine.goAndRemember, EStateM.run_get]
  rw [show machine.toRaw.counter = machine.counter.toNat from rfl, run_push, Machine.push,
    Machine.goAndRemember]
  cases machine.stack.push machine.counter.toNat with
  | error fault => rfl
  | ok stack => rfl

theorem goOn_storeAtIndex {numbers : List Int} {bytes : List Byte}
    (cut : numbers.map Byte.ofInt = bytes) :
    (do RawMachine.storeAtIndex numbers; return Status.running).run machine.toRaw =
      (machine.storeAtIndex bytes).toRaw id := by
  simp only [EStateM.run_bind, RawMachine.storeAtIndex, EStateM.run_get]
  rw [show machine.toRaw.index = machine.index.toNat from rfl, run_writeBlock, cut,
    Machine.storeAtIndex]
  cases machine.memory.writeBlock machine.index.toNat bytes with
  | error fault => rfl
  | ok memory => rfl

/-- Replacing as many registers as there are bytes leaves sixteen registers. -/
theorem toList_replaceFirst (registers : Vector Byte 16) {bytes : List Byte}
    (few : bytes.length ≤ 16) :
    (Machine.replaceFirst registers bytes).toList =
      bytes ++ registers.toList.drop bytes.length := by
  apply List.ext_getElem
  · simp only [Vector.length_toList, List.length_append, List.length_drop]
    omega
  · intro place inside _
    rw [Vector.length_toList] at inside
    by_cases covered : place < bytes.length
    · simp [Machine.replaceFirst, covered]
    · have behind : bytes.length + (place - bytes.length) = place := by omega
      simp [Machine.replaceFirst, covered, List.getElem_append_right (Nat.le_of_not_lt covered),
        behind]

theorem goOn_loadAtIndex {count : Nat} (few : count ≤ 16) :
    (do RawMachine.loadRegisters count; return Status.running).run machine.toRaw =
      (machine.loadAtIndex count).toRaw id := by
  have block := run_readBlock machine machine.index.toNat count
  simp only [RawMachine.loadRegisters, EStateM.run_bind, EStateM.run_get, Machine.loadAtIndex]
  rw [show machine.toRaw.index = machine.index.toNat from rfl, block]
  cases read : machine.memory.readBlock machine.index.toNat count with
  | error fault => rfl
  | ok bytes =>
    have length := Memory.length_of_readBlock read
    have fits : bytes.length ≤ 16 := Nat.le_trans (Nat.le_of_eq length) few
    have replaced := toList_replaceFirst machine.registers fits
    have spliced := Cells.splice_natCast (bytesOf machine.registers)
      (bytes.map fun byte => (byte.toNat : Int)) (Nat.zero_le count)
    have written : Cells.splice (bytesOf machine.registers) 0 count
        (bytes.map fun byte => (byte.toNat : Int)) =
          bytesOf (Machine.replaceFirst machine.registers bytes) := by
      refine spliced.trans ?_
      rw [bytesOf, bytesOf, replaced, length, List.map_append, List.map_drop]
      rfl
    simp only [Outcome.toRaw_ok, EStateM.run_modify, EStateM.run_pure]
    rw [show machine.toRaw.registers = bytesOf machine.registers from rfl, written]
    rfl

theorem goOn_drawByte {position : Fin 16} {mask : Byte} :
    (do RawMachine.drawByte position.val mask.toNat; return Status.running).run machine.toRaw =
      (machine.drawByte position mask).toRaw id := by
  rcases drawn : machine.random.nextByte with ⟨byte, rest⟩
  have masked : Int.land byte.toNat mask.toNat = ((byte &&& mask).toNat : Int) := by
    rw [UInt8.toNat_and]
    rfl
  have written := run_setRegister { machine with random := rest } position (byte &&& mask)
  simp only [RawMachine.drawByte, Machine.drawByte, EStateM.run_bind, EStateM.run_get]
  rw [show machine.toRaw.random = machine.random from rfl, drawn]
  simp only [EStateM.run_modify, masked]
  rw [show ({ machine.toRaw with random := rest } : RawMachine) =
    ({ machine with random := rest } : Machine).toRaw from rfl, written]
  rfl

theorem goOn_drawSprite (x y : Byte) (rows : Nat) :
    (do RawMachine.drawSprite x.toNat y.toNat rows; return Status.running).run machine.toRaw =
      (machine.drawSprite x y rows).toRaw id := by
  rw [EStateM.run_bind, run_drawSprite, Machine.drawSprite]
  cases machine.memory.readBlock machine.index.toNat rows with
  | error fault => rfl
  | ok sprite => rfl

theorem run_takeKey (position : Fin 16) :
    (RawMachine.takeKey position.val).run machine.toRaw = (machine.takeKey position).toRaw id := by
  unfold RawMachine.takeKey Machine.takeKey
  simp only [EStateM.run_bind, EStateM.run_get, Machine.heldKey_toRaw]
  cases machine.keypad.lowest? with
  | none =>
    have back : ((machine.counter.toNat : Int) - 2) % 65536 = (machine.counter - 2).toNat := by
      rw [UInt16.toNat_sub]
      have bound := machine.counter.toNat_lt
      have two : (2 : Word).toNat = 2 := rfl
      omega
    simp only [Option.map_none, RawMachine.jump, EStateM.run_bind, EStateM.run_get,
      EStateM.run_modify, EStateM.run_pure, Outcome.toRaw_ok]
    rw [show machine.toRaw.counter = machine.counter.toNat from rfl, back]
    rfl
  | some key =>
    have small : (key.val : Int) = (UInt8.ofNat key.val).toNat := by
      have bound := key.isLt
      rw [UInt8.toNat_ofNat']
      omega
    exact goOn_setRegister machine small

theorem mem_keys_eq_holds (value : Byte) :
    decide ((value.toNat : Int) ∈ machine.toRaw.keys) = machine.keypad.holds value := by
  rw [show machine.toRaw.keys = machine.keypad.numbers from rfl, Keypad.holds]
  by_cases real : value.toNat < 16
  · rw [dif_pos real]
    simp only [Keypad.natCast_mem_numbers real, Bool.decide_eq_true]
  · rw [dif_neg real, decide_eq_false_iff_not, Keypad.mem_numbers]
    rintro ⟨key, inside, _, same⟩
    omega

/-! ## Results that are cut, and results that need no cut -/

section Results

variable (a b : Byte)

theorem cut_add : ((a.toNat : Int) + b.toNat) % 256 = (a + b).toNat := by
  rw [UInt8.toNat_add]
  push_cast
  rfl

theorem cut_sub : ((a.toNat : Int) - b.toNat) % 256 = (a - b).toNat := by
  have first := a.toNat_lt
  have second := b.toNat_lt
  rw [UInt8.toNat_sub]
  omega

theorem cut_double : (a.toNat : Int) * 2 % 256 = (a * 2).toNat := by
  rw [UInt8.toNat_mul]
  push_cast
  rfl

theorem uncut_or : Int.lor a.toNat b.toNat = (a ||| b).toNat := by
  rw [UInt8.toNat_or]
  rfl

theorem uncut_and : Int.land a.toNat b.toNat = (a &&& b).toNat := by
  rw [UInt8.toNat_and]
  rfl

theorem uncut_xor : Int.xor a.toNat b.toNat = (a ^^^ b).toNat := by
  rw [UInt8.toNat_xor]
  rfl

theorem uncut_div (divisor : Byte) : (a.toNat : Int) / divisor.toNat = (a / divisor).toNat := by
  rw [UInt8.toNat_div]
  push_cast
  rfl

theorem uncut_mod (divisor : Byte) : (a.toNat : Int) % divisor.toNat = (a % divisor).toNat := by
  rw [UInt8.toNat_mod]
  push_cast
  rfl

/-- The highest bit of a byte is its quotient by 128 already. -/
theorem uncut_highBit : (a.toNat : Int) / 128 % 2 = (a / 128).toNat := by
  have bound := a.toNat_lt
  have half : (128 : Byte).toNat = 128 := rfl
  rw [← uncut_div, half]
  omega

theorem flag_toNat {test : Prop} [Decidable test] {condition : Bool}
    (same : test ↔ condition = true) :
    (if test then 1 else 0 : Int) = (Machine.flagOf condition).toNat := by
  by_cases holds : test
  · rw [if_pos holds, same.mp holds]
    rfl
  · have fails : condition = false := by
      rwa [same, Bool.not_eq_true] at holds
    rw [if_neg holds, fails]
    rfl

theorem carry_toNat :
    (a.toNat : Int) + b.toNat > 255 ↔ decide (255 < a.toNat + b.toNat) = true := by
  rw [decide_eq_true_iff]
  omega

theorem le_toNat : (b.toNat : Int) ≥ a.toNat ↔ decide (a ≤ b) = true := by
  rw [decide_eq_true_iff, UInt8.le_iff_toNat_le]
  omega

theorem beq_toNat : ((a.toNat : Int) == b.toNat) = (a == b) := by
  rw [Bool.eq_iff_iff, beq_iff_eq, beq_iff_eq, ← UInt8.toNat_inj]
  omega

theorem cut_offset (word : Word) :
    ((word.toNat : Int) + a.toNat) % 65536 = (word + UInt16.ofNat a.toNat).toNat := by
  have bound := a.toNat_lt
  rw [UInt16.toNat_add, UInt16.toNat_ofNat']
  omega

/-- The glyph of any byte starts below 2048, so its address needs no cut. -/
theorem uncut_glyph : (a.toNat : Int) * 5 = (Font.glyphAddress a).toNat := by
  have bound := a.toNat_lt
  rw [Font.glyphAddress, UInt16.toNat_ofNat', Font.glyphSize]
  omega

/-- The digits of a byte are bytes. -/
theorem digits_toNat :
    [(a.toNat : Int) / 100, (a.toNat : Int) / 10 % 10, (a.toNat : Int) % 10].map Byte.ofInt =
      Machine.decimalDigits a := by
  have hundreds : (a.toNat : Int) / 100 = (a / 100).toNat := uncut_div a 100
  have tens : (a.toNat : Int) / 10 % 10 = (a / 10 % 10).toNat := by
    rw [show (a.toNat : Int) / 10 = (a / 10).toNat from uncut_div a 10]
    exact uncut_mod (a / 10) 10
  have units : (a.toNat : Int) % 10 = (a % 10).toNat := uncut_mod a 10
  rw [hundreds, tens, units]
  simp only [List.map_cons, List.map_nil, Byte.ofInt_toNat, Machine.decimalDigits]

theorem ofInt_bytesOf {count : Nat} (cells : Vector Byte count) :
    (bytesOf cells).map Byte.ofInt = cells.toList := by
  rw [bytesOf, List.map_map]
  exact List.map_id'' Byte.ofInt_toNat cells.toList

end Results

/-! ## All operations -/

/-- Each operation has its own reason: what it cuts is cut right, or there is nothing to
cut. Waiting for a key answers more than the others and stands apart. -/
theorem run_perform (bounded : machine.stack.depth ≤ 16) {operation : Operation}
    (ready : operation ≠ .awaitKey) (word : Word) :
    (do RawMachine.perform operation (RawFields.ofInt word.toNat)
          machine.registers[word.x].toNat machine.registers[word.y].toNat;
        return Status.running).run machine.toRaw =
      (Machine.exec operation word machine).toRaw id := by
  rw [RawFields.ofInt_toNat]
  set vx := machine.registers[word.x] with vx_eq
  set vy := machine.registers[word.y] with vy_eq
  cases operation with
  | systemCall => rfl
  | clearScreen =>
    have shown : machine.toRaw.screen = machine.screen.toRaw := rfl
    have cleared := run_clearScreen shown
    simp only [RawMachine.perform, EStateM.run_bind, cleared]
    rfl
  | ret => exact goOn_goBack machine bounded
  | jump => exact goOn_jump machine rfl
  | call => exact goOn_goAndRemember machine word.address
  | jumpOffset =>
    have first : (RawMachine.register 0).run machine.toRaw =
        .ok (machine.registers[0].toNat : Int) machine.toRaw := run_register machine 0
    simp only [RawMachine.perform, EStateM.run_bind, first]
    exact goOn_jump machine (cut_offset machine.registers[0] word.address)
  | skipIfByte => exact goOn_skipIf machine (beq_toNat vx word.immediate)
  | skipUnlessByte => exact goOn_skipIf machine (congrArg not (beq_toNat vx word.immediate))
  | skipIfSame => exact goOn_skipIf machine (beq_toNat vx vy)
  | skipUnlessSame => exact goOn_skipIf machine (congrArg not (beq_toNat vx vy))
  | skipIfHeld => exact goOn_skipIf machine (mem_keys_eq_holds machine vx)
  | skipUnlessHeld =>
    have away : decide ((vx.toNat : Int) ∉ machine.toRaw.keys) = !machine.keypad.holds vx := by
      rw [decide_not, mem_keys_eq_holds]
    exact goOn_skipIf machine away
  | loadByte => exact goOn_setRegister machine rfl
  | addByte => exact goOn_setRegister machine (cut_add vx word.immediate)
  | copy => exact goOn_setRegister machine rfl
  | bitOr => exact goOn_setRegister machine (uncut_or vx vy)
  | bitAnd => exact goOn_setRegister machine (uncut_and vx vy)
  | bitXor => exact goOn_setRegister machine (uncut_xor vx vy)
  | add => exact goOn_setWithFlag machine (cut_add vx vy) (flag_toNat (carry_toNat vx vy))
  | subtract => exact goOn_setWithFlag machine (cut_sub vx vy) (flag_toNat (le_toNat vy vx))
  | subtractFrom => exact goOn_setWithFlag machine (cut_sub vy vx) (flag_toNat (le_toNat vx vy))
  | shiftRight => exact goOn_setWithFlag machine (uncut_div vx 2) (uncut_mod vx 2)
  | shiftLeft =>
    have flag : (if machine.toRaw.settings.shiftFlagFromLowBit then (vx.toNat : Int) % 2
        else vx.toNat / 128 % 2) =
        ((if machine.settings.shiftFlagFromLowBit then vx % 2
          else vx / 128 : Byte).toNat : Int) := by
      rw [show machine.toRaw.settings = machine.settings from rfl]
      split
      · exact uncut_mod vx 2
      · exact uncut_highBit vx
    exact goOn_setWithFlag machine (cut_double vx) flag
  | loadIndex => exact goOn_pointAt machine rfl
  | advanceIndex => exact goOn_pointAt machine (cut_offset vx machine.index)
  | pointAtGlyph => exact goOn_pointAt machine (uncut_glyph vx)
  | storeDigits => exact goOn_storeAtIndex machine (digits_toNat vx)
  | storeRegisters =>
    have first : (Cells.stretch machine.toRaw.registers 0 ((word.x.val : Int) + 1)).map Byte.ofInt =
        machine.registers.toList.take (word.x.val + 1) := by
      have stretched := Cells.stretch_natCast (bytesOf machine.registers) 0 (word.x.val + 1)
      rw [Nat.cast_add] at stretched
      refine (congrArg (List.map Byte.ofInt) stretched).trans ?_
      rw [List.drop_zero, List.map_take, ofInt_bytesOf]
    have stored := goOn_storeAtIndex machine first
    simp only [RawMachine.perform, EStateM.run_bind, EStateM.run_get] at stored ⊢
    exact stored
  | loadRegisters =>
    exact goOn_loadAtIndex machine (Nat.succ_le_of_lt word.x.isLt)
  | random => exact goOn_drawByte machine
  | draw => exact goOn_drawSprite machine vx vy word.nibble
  | readDelay => exact goOn_setRegister machine rfl
  | setDelay => rfl
  | setSound => rfl
  | awaitKey => exact absurd rfl ready

theorem run_exec (bounded : machine.stack.depth ≤ 16) (code : Int) (word : Word) :
    (RawMachine.exec code (RawFields.ofInt word.toNat)).run machine.toRaw =
      (machine.execCode code word).toRaw id := by
  have x_field : (RawFields.ofInt word.toNat).x = word.x.val := by rw [RawFields.ofInt_toNat]
  have y_field : (RawFields.ofInt word.toNat).y = word.y.val := by rw [RawFields.ofInt_toNat]
  have performed := fun (operation : Operation) (ready : operation ≠ .awaitKey) =>
    run_perform machine bounded ready word
  simp only [RawMachine.exec, Machine.execCode, EStateM.run_bind, x_field, y_field, run_register]
  cases Operation.ofCode? code with
  | none => rfl
  | some operation =>
    by_cases waits : operation = .awaitKey
    · subst waits
      exact run_takeKey machine word.x
    · rw [← performed operation waits, EStateM.run_bind]
      cases operation with
      | awaitKey => exact absurd rfl waits
      | _ => rfl

end Chip8
