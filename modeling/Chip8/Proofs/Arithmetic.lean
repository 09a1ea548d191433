/-
# Arithmetic on registers

An operation that leaves a flag keeps a balance between its operands, its result and the flag,
all read as plain numbers: the flag stands for the bit that a sum, a difference or a shift has no
room for in a byte. With a byte for the result and a bit for the flag the balance leaves no
choice, so it says all about what the operation computes.

An instruction reads its operands before it writes, and writes the flag last. So an operand that
is VF is what VF held before, and where the result goes to VF, only the flag remains.
-/

import Chip8.Proofs.Machine.Instruction
import Chip8.Proofs.Machine.Writes

namespace Chip8

namespace Operation

/-- The operations that write a result and then a flag. -/
def flagged : List Operation :=
  [.add, .subtract, .subtractFrom, .shiftRight, .shiftLeft]

/-- The operations on registers that write a result and no flag. -/
def unflagged : List Operation :=
  [.loadByte, .addByte, .copy, .bitOr, .bitAnd, .bitXor]

/-- How operands, result and flag of a flagged operation balance. The flag of a shift to the left
is the bit that falls out, or the lowest bit of the operand if so set. -/
def Balances (lowBit : Bool) (a b result flag : Int) : Operation → Prop
  | add => a + b = 256 * flag + result
  | subtract => result = a - b + 256 * (1 - flag)
  | subtractFrom => result = b - a + 256 * (1 - flag)
  | shiftRight => a = 2 * result + flag ∧ result ≤ 127
  | shiftLeft =>
    if lowBit then result = 2 * a % 256 ∧ flag = a % 2 else 2 * a = 256 * flag + result
  | _ => False

/-- A byte and a bit are the result and the flag of an operation on two operands. -/
structure Yields (operation : Operation) (lowBit : Bool) (a b result flag : Int) : Prop where
  least : 0 ≤ result
  most : result ≤ 255
  bit : flag = 0 ∨ flag = 1
  balances : operation.Balances lowBit a b result flag

instance (operation : Operation) (lowBit : Bool) (a b result flag : Int) :
    Decidable (operation.Balances lowBit a b result flag) := by
  unfold Balances
  split <;> infer_instance

instance (operation : Operation) (lowBit : Bool) (a b result flag : Int) :
    Decidable (operation.Yields lowBit a b result flag) :=
  decidable_of_iff
    (0 ≤ result ∧ result ≤ 255 ∧ (flag = 0 ∨ flag = 1) ∧
      operation.Balances lowBit a b result flag)
    ⟨fun ⟨least, most, bit, balances⟩ => ⟨least, most, bit, balances⟩,
      fun ⟨least, most, bit, balances⟩ => ⟨least, most, bit, balances⟩⟩

/-- What an unflagged operation makes of two operands and the immediate byte. -/
def plainResult (a b immediate : Nat) : Operation → Nat
  | loadByte => immediate
  | addByte => (a + immediate) % 256
  | copy => b
  | bitOr => a ||| b
  | bitAnd => a &&& b
  | bitXor => a ^^^ b
  | _ => a

namespace Yields

variable {operation : Operation} {lowBit : Bool} {a b result flag : Int}

/-- The balance leaves no choice. -/
theorem unique (yields : operation.Yields lowBit a b result flag) {other otherFlag : Int}
    (also : operation.Yields lowBit a b other otherFlag) : other = result ∧ otherFlag = flag := by
  obtain ⟨least, most, bit, balances⟩ := yields
  obtain ⟨otherLeast, otherMost, otherBit, otherBalances⟩ := also
  cases operation with
  | add | subtract | subtractFrom | shiftRight =>
    simp only [Balances] at balances otherBalances
    omega
  | shiftLeft =>
    cases lowBit with
    | true =>
      exact ⟨otherBalances.1.trans balances.1.symm, otherBalances.2.trans balances.2.symm⟩
    | false =>
      have doubled : 2 * a = 256 * flag + result := balances
      have otherDoubled : 2 * a = 256 * otherFlag + other := otherBalances
      omega
  | _ => exact balances.elim

/-- A shift has one operand. -/
theorem shift (shifts : operation ∈ [shiftRight, shiftLeft])
    (yields : operation.Yields lowBit a b result flag) (c : Int) :
    operation.Yields lowBit a c result flag := by
  obtain ⟨least, most, bit, balances⟩ := yields
  refine ⟨least, most, bit, ?_⟩
  cases operation with
  | shiftRight | shiftLeft => exact balances
  | _ => exact absurd shifts (by decide)

end Yields

/-! ## Balances of bytes -/

section Bytes

variable (a b : Byte)

/-- Every byte is a result, and the flag is one or zero. -/
theorem yields_of_balances {operation : Operation} {lowBit : Bool} {result flag : Byte}
    (bit : flag.toNat ≤ 1)
    (balances : operation.Balances lowBit a.toNat b.toNat result.toNat flag.toNat) :
    operation.Yields lowBit a.toNat b.toNat result.toNat flag.toNat := by
  have bound := result.toNat_lt
  exact ⟨by omega, by omega, by omega, balances⟩

theorem toNat_flagOf_le (condition : Bool) : (Machine.flagOf condition).toNat ≤ 1 := by
  cases condition with
  | false => decide
  | true => decide

theorem yields_add (lowBit : Bool) :
    add.Yields lowBit a.toNat b.toNat (a + b).toNat
      (Machine.flagOf (255 < a.toNat + b.toNat)).toNat := by
  refine yields_of_balances a b (toNat_flagOf_le _) ?_
  have first := a.toNat_lt
  have second := b.toNat_lt
  show (a.toNat : Int) + b.toNat = 256 * _ + (a + b).toNat
  rw [← flag_toNat (carry_toNat a b), ← cut_add]
  split_ifs
  · omega
  · omega

/-- The flag of a difference is one where nothing is borrowed. -/
theorem difference_eq :
    ((a - b).toNat : Int) =
      a.toNat - b.toNat + 256 * (1 - (Machine.flagOf (b ≤ a)).toNat) := by
  have first := a.toNat_lt
  have second := b.toNat_lt
  rw [← flag_toNat (le_toNat b a), ← cut_sub]
  split_ifs
  · omega
  · omega

theorem yields_subtract (lowBit : Bool) :
    subtract.Yields lowBit a.toNat b.toNat (a - b).toNat (Machine.flagOf (b ≤ a)).toNat :=
  yields_of_balances a b (toNat_flagOf_le _) (difference_eq a b)

theorem yields_subtractFrom (lowBit : Bool) :
    subtractFrom.Yields lowBit a.toNat b.toNat (b - a).toNat (Machine.flagOf (a ≤ b)).toNat :=
  yields_of_balances a b (toNat_flagOf_le _) (difference_eq b a)

theorem yields_shiftRight (lowBit : Bool) :
    shiftRight.Yields lowBit a.toNat b.toNat (a / 2).toNat (a % 2).toNat := by
  have bound := a.toNat_lt
  have half : (a.toNat : Int) / 2 = (a / 2).toNat := uncut_div a 2
  have low : (a.toNat : Int) % 2 = (a % 2).toNat := uncut_mod a 2
  refine yields_of_balances a b (by omega) ?_
  show (a.toNat : Int) = 2 * (a / 2).toNat + (a % 2).toNat ∧ ((a / 2).toNat : Int) ≤ 127
  omega

theorem yields_shiftLeft (lowBit : Bool) :
    shiftLeft.Yields lowBit a.toNat b.toNat (a * 2).toNat
      (if lowBit then a % 2 else a / 128).toNat := by
  have bound := a.toNat_lt
  have double := cut_double a
  cases lowBit with
  | true =>
    have low : (a.toNat : Int) % 2 = (a % 2).toNat := uncut_mod a 2
    refine yields_of_balances a b ?_ ?_
    · show (a % 2).toNat ≤ 1
      omega
    · show ((a * 2).toNat : Int) = 2 * a.toNat % 256 ∧ ((a % 2).toNat : Int) = a.toNat % 2
      omega
  | false =>
    have high : (a.toNat : Int) / 128 = (a / 128).toNat := uncut_div a 128
    refine yields_of_balances a b ?_ ?_
    · show (a / 128).toNat ≤ 1
      omega
    · show 2 * (a.toNat : Int) = 256 * (a / 128).toNat + (a * 2).toNat
      omega

end Bytes

end Operation

namespace Machine

open Operation

variable {machine : Machine} {command : Command} {operation : Operation} {word : Word}

/-! ## What the operations write -/

/-- A flagged operation writes what it yields, the flag last. -/
theorem exists_exec_of_flagged (inFlagged : operation ∈ flagged) (machine : Machine)
    (word : Word) :
    ∃ result flag : Byte,
      operation.Yields machine.settings.shiftFlagFromLowBit (machine.registers.get word.x).toNat
        (machine.registers.get word.y).toNat result.toNat flag.toNat ∧
      exec operation word machine = goOn (machine.setWithFlag word.x result flag) [] := by
  cases operation with
  | add => exact ⟨_, _, yields_add _ _ _, rfl⟩
  | subtract => exact ⟨_, _, yields_subtract _ _ _, rfl⟩
  | subtractFrom => exact ⟨_, _, yields_subtractFrom _ _ _, rfl⟩
  | shiftRight => exact ⟨_, _, yields_shiftRight _ _ _, rfl⟩
  | shiftLeft => exact ⟨_, _, yields_shiftLeft _ _ _, rfl⟩
  | _ => exact absurd inFlagged (by decide)

/-- An unflagged operation writes one register. -/
theorem exists_exec_of_unflagged (inUnflagged : operation ∈ unflagged) (machine : Machine)
    (word : Word) :
    ∃ result : Byte,
      result.toNat = operation.plainResult (machine.registers.get word.x).toNat
        (machine.registers.get word.y).toNat word.immediate.toNat ∧
      exec operation word machine = goOn (machine.setRegister word.x result) [] := by
  cases operation with
  | loadByte | copy => exact ⟨_, rfl, rfl⟩
  | addByte => exact ⟨_, UInt8.toNat_add _ _, rfl⟩
  | bitOr => exact ⟨_, UInt8.toNat_or _ _, rfl⟩
  | bitAnd => exact ⟨_, UInt8.toNat_and _ _, rfl⟩
  | bitXor => exact ⟨_, UInt8.toNat_xor _ _, rfl⟩
  | _ => exact absurd inUnflagged (by decide)

/-- A result and a flag have been written, and nothing else. Where both go to VF, the flag is
what it holds. -/
structure WroteFlagged (x : Fin 16) (result flag : Int) (before after : Machine) : Prop where
  flag : ((after.registers.get 15).toNat : Int) = flag
  result : x ≠ 15 → ((after.registers.get x).toNat : Int) = result
  others : ∀ register : Fin 16, register ≠ x → register ≠ 15 →
    after.registers.get register = before.registers.get register
  rest : Elsewhere { before with registers := after.registers } after

/-- What has been written tells VX and VF. -/
theorem WroteFlagged.same {x : Fin 16} {result flag : Int} {before after other otherAfter : Machine}
    (wrote : before.WroteFlagged x result flag after)
    (also : other.WroteFlagged x result flag otherAfter) :
    otherAfter.registers.get x = after.registers.get x ∧
      otherAfter.registers.get 15 = after.registers.get 15 := by
  have flags : otherAfter.registers.get 15 = after.registers.get 15 :=
    UInt8.toNat_inj.mp (Int.ofNat_inj.mp (also.flag.trans wrote.flag.symm))
  by_cases apart : x = 15
  · subst apart
    exact ⟨flags, flags⟩
  · have results := (also.result apart).trans (wrote.result apart).symm
    exact ⟨UInt8.toNat_inj.mp (Int.ofNat_inj.mp results), flags⟩

/-- One register has been written, and nothing else. -/
structure WrotePlain (x : Fin 16) (result : Nat) (before after : Machine) : Prop where
  result : (after.registers.get x).toNat = result
  others : ∀ register : Fin 16, register ≠ x →
    after.registers.get register = before.registers.get register
  rest : Elsewhere { before with registers := after.registers } after

theorem flag_setWithFlag (machine : Machine) (x : Fin 16) (value flag : Byte) :
    (machine.setWithFlag x value flag).registers.get 15 = flag :=
  Vector.getElem_set_self (by decide)

/-- The flag is written last, but elsewhere. -/
theorem result_setWithFlag (machine : Machine) {x : Fin 16} (value flag : Byte) (apart : x ≠ 15) :
    (machine.setWithFlag x value flag).registers.get x = value := by
  have places : 15 ≠ x.val := fun same => apart (Fin.ext same.symm)
  show ((machine.registers.set x.val value x.isLt).set 15 flag (by decide))[x.val] = value
  rw [Vector.getElem_set_ne _ _ places, Vector.getElem_set_self]

theorem wroteFlagged_setWithFlag (machine : Machine) (x : Fin 16) (value flag : Byte) :
    machine.WroteFlagged x value.toNat flag.toNat (machine.setWithFlag x value flag) where
  flag := congrArg (fun byte : Byte => (byte.toNat : Int)) (flag_setWithFlag machine x value flag)
  result apart :=
    congrArg (fun byte : Byte => (byte.toNat : Int)) (result_setWithFlag machine value flag apart)
  others _ other plain := register_setWithFlag machine value flag (not_or.mpr ⟨other, plain⟩)
  rest := elsewhere_refl _

theorem wrotePlain_setRegister (machine : Machine) (x : Fin 16) (value : Byte) :
    machine.WrotePlain x value.toNat (machine.setRegister x value) where
  result := congrArg UInt8.toNat (Vector.getElem_set_self x.isLt)
  others _ other := register_setRegister machine value other
  rest := elsewhere_refl _

theorem Does.wroteFlagged (does : machine.Does command operation word)
    (inFlagged : operation ∈ flagged) :
    machine.Answers command .running ∧
      ∃ result flag : Int,
        operation.Yields machine.settings.shiftFlagFromLowBit (machine.registers.get word.x).toNat
          (machine.registers.get word.y).toNat result flag ∧
        machine.WroteFlagged word.x result flag (perform command machine).machine := by
  obtain ⟨start, ⟨_, _, _, rfl⟩, answer, _, leaves⟩ := does.exists_exec
  obtain ⟨result, flag, yields, done⟩ := exists_exec_of_flagged inFlagged _ word
  rw [done] at answer leaves
  refine ⟨answer .running rfl, result.toNat, flag.toNat, yields, ?_⟩
  obtain ⟨_, _, _, left⟩ := leaves
  rw [left]
  have wrote := wroteFlagged_setWithFlag machine word.x result flag
  exact ⟨wrote.flag, wrote.result, wrote.others, ⟨_, _, _, rfl⟩⟩

theorem Does.wrotePlain (does : machine.Does command operation word)
    (inUnflagged : operation ∈ unflagged) :
    machine.Answers command .running ∧
      machine.WrotePlain word.x
        (operation.plainResult (machine.registers.get word.x).toNat
          (machine.registers.get word.y).toNat word.immediate.toNat)
        (perform command machine).machine := by
  obtain ⟨start, ⟨_, _, _, rfl⟩, answer, _, leaves⟩ := does.exists_exec
  obtain ⟨result, made, done⟩ := exists_exec_of_unflagged inUnflagged _ word
  rw [done] at answer leaves
  refine ⟨answer .running rfl, ?_⟩
  obtain ⟨_, _, _, left⟩ := leaves
  rw [left]
  have wrote := wrotePlain_setRegister machine word.x result
  exact ⟨wrote.result.trans made, wrote.others, ⟨_, _, _, rfl⟩⟩

/-- An instruction with a flag writes the one byte and the one bit that balance with its
operands, and where both go to VF, the flag is what remains. A shift does not see its second
operand. An instruction without a flag writes VX alone. A machine of plain integers does the
same. -/
theorem arithmetic_balances {machine : Machine} (wellFormed : machine.WellFormed)
    {command : Command} {operation : Operation} {word : Word}
    (does : machine.Does command operation word) :
    (operation ∈ flagged →
      machine.Answers command .running ∧
      (∃! both : Int × Int,
        operation.Yields machine.settings.shiftFlagFromLowBit (machine.registers.get word.x).toNat
          (machine.registers.get word.y).toNat both.1 both.2) ∧
      ∀ result flag : Int,
        operation.Yields machine.settings.shiftFlagFromLowBit (machine.registers.get word.x).toNat
          (machine.registers.get word.y).toNat result flag →
        machine.WroteFlagged word.x result flag (perform command machine).machine) ∧
    (operation ∈ [.shiftRight, .shiftLeft] →
      ∀ (other : Machine) (otherCommand : Command) (otherWord : Word),
        other.Does otherCommand operation otherWord → otherWord.x = word.x →
        other.registers.get word.x = machine.registers.get word.x →
        other.settings.shiftFlagFromLowBit = machine.settings.shiftFlagFromLowBit →
        (perform otherCommand other).machine.registers.get word.x =
            (perform command machine).machine.registers.get word.x ∧
          (perform otherCommand other).machine.registers.get 15 =
            (perform command machine).machine.registers.get 15) ∧
    (operation ∈ unflagged →
      machine.Answers command .running ∧
      machine.WrotePlain word.x
        (operation.plainResult (machine.registers.get word.x).toNat
          (machine.registers.get word.y).toNat word.immediate.toNat)
        (perform command machine).machine) ∧
    (RawMachine.obey command).run machine.toRaw =
      (perform command machine).toRaw fun _ => () := by
  refine ⟨?_, ?_, does.wrotePlain, run_obey machine wellFormed command⟩
  · intro inFlagged
    obtain ⟨answer, result, flag, yields, wrote⟩ := does.wroteFlagged inFlagged
    refine ⟨answer, ⟨(result, flag), yields, ?_⟩, ?_⟩
    · intro both also
      obtain ⟨sameResult, sameFlag⟩ := yields.unique also
      exact Prod.ext sameResult sameFlag
    · intro other otherFlag also
      obtain ⟨rfl, rfl⟩ := yields.unique also
      exact wrote
  · intro shifts other otherCommand otherWord otherDoes sameX sameValue sameSetting
    have inFlagged : operation ∈ flagged := by
      cases operation with
      | shiftRight | shiftLeft => decide
      | _ => exact absurd shifts (by decide)
    -- the balances of the two shifts differ in the second operand only, which neither has
    obtain ⟨_, result, flag, yields, wrote⟩ := does.wroteFlagged inFlagged
    obtain ⟨_, otherResult, otherFlag, otherYields, otherWrote⟩ :=
      otherDoes.wroteFlagged inFlagged
    simp only [sameX, sameValue, sameSetting] at otherYields
    rw [sameX] at otherWrote
    obtain ⟨rfl, rfl⟩ := yields.unique (otherYields.shift shifts _)
    exact wrote.same otherWrote

/-- A sum that goes to VF, taken by a step, leaves only its carry there. A difference by VF,
done directly, is taken by what VF held before. -/
theorem arithmetic_balances_of_flag_register :
    let machine := (bare [0x8F, 0x24]).after
      [.exec Operation.loadByte.code.toNat 0x6220, .exec Operation.loadByte.code.toNat 0x6FF0]
    let subtracted := (perform (.exec Operation.subtract.code.toNat 0x82F5) machine).machine
    machine.WellFormed ∧
      machine.Does .step .add machine.nextWord ∧
      ((machine.step.machine.registers.get 15).toNat : Int) = 1 ∧
      machine.Does (.exec Operation.subtract.code.toNat 0x82F5) .subtract 0x82F5 ∧
      ((subtracted.registers.get 2).toNat : Int) = 0x30 ∧
      ((subtracted.registers.get 15).toNat : Int) = 0 := by
  intro machine subtracted
  have wellFormed : machine.WellFormed := (wellFormed_bare _).after _
  have next : machine.Next .add := by decide +kernel
  have adds : machine.Does .step .add machine.nextWord := .step next
  have subtracts : machine.Does (.exec Operation.subtract.code.toNat 0x82F5) .subtract 0x82F5 :=
    .directly .subtract 0x82F5
  obtain ⟨sum, _⟩ := arithmetic_balances wellFormed adds
  obtain ⟨difference, _⟩ := arithmetic_balances wellFormed subtracts
  have wroteSum := (sum (by decide)).2.2 0x10 1 (by decide +kernel)
  have wroteDifference := (difference (by decide)).2.2 0x30 0 (by decide +kernel)
  exact ⟨wellFormed, adds, wroteSum.flag, subtracts, wroteDifference.result (by decide),
    wroteDifference.flag⟩

end Machine

end Chip8
