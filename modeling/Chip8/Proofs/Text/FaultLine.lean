/-
# Lines that tell of a fault

Whoever looks for the fault of a step in a log looks for the words `fault at PC`. The fault of a
step has them in its text. Nothing else that steps, timers and runs report has them: each of these
texts lacks a letter of the words, since what it has besides its own words are numbers, operations
and their operands.
-/

import Chip8.Proofs.Text.Snapshot
import Mathlib.Data.List.Infix

namespace Chip8

/-- The line tells of a fault at an address. -/
def isFaultLine (line : String) : Bool :=
  decide ("fault at PC".toList <:+: line.toList)

/-- The event is a fault, of a step or of a whole headless run. -/
def Event.isFault : Event → Bool
  | faulted _ _ _ | runFaulted _ _ => true
  | _ => false

theorem isFaultLine_of_notMem {line : String} (letter : Char)
    (wanted : letter ∈ "fault at PC".toList) (absent : letter ∉ line.toList) :
    isFaultLine line = false :=
  decide_eq_false fun inside => absent (inside.subset wanted)

theorem isFaultLine_faulted (tick : Int) (origin : Word) (fault : Fault) :
    isFaultLine (Event.message (.faulted tick origin fault)) = true := by
  have words : "] fault at PC " = "] " ++ ("fault at PC" ++ " ") := by decide
  apply decide_eq_true
  refine ⟨("[tick " ++ Numeral.decimal 1 tick ++ "] ").toList,
    (" " ++ Numeral.hex 3 origin.toNat ++ ": " ++ fault.message).toList, ?_⟩
  unfold Event.message
  rw [words, ← String.toList_append, ← String.toList_append]
  simp only [String.append_assoc]

/-! ## Letters that are absent -/

theorem notMem_append {text more : String} {letter : Char} :
    letter ∉ (text ++ more).toList ↔ letter ∉ text.toList ∧ letter ∉ more.toList := by
  rw [String.toList_append, List.mem_append, not_or]

theorem f_notMem_hex (width : Nat) (value : Int) : 'f' ∉ (Numeral.hex width value).toList :=
  Numeral.notMem_hex (by decide)

theorem f_notMem_decimal (width : Nat) (value : Int) :
    'f' ∉ (Numeral.decimal width value).toList :=
  Numeral.notMem_decimal (by decide)

theorem f_notMem_registerText (register : Fin 16) : 'f' ∉ (registerText register).toList := by
  revert register
  decide

theorem f_notMem_mnemonic (operation : Operation) (word : Word) :
    'f' ∉ (mnemonic operation word).toList := by
  have name : 'f' ∉ operation.name.toList := by
    cases operation with
    | _ => decide
  have pair : 'f' ∉ (registerPairText word).toList := by
    simp +decide only [registerPairText, notMem_append, f_notMem_registerText]
  have registers : 'f' ∉ (if showsBothRegisters operation word then registerPairText word
      else registerText word.x).toList := by
    split
    · exact pair
    · exact f_notMem_registerText word.x
  rw [mnemonic]
  cases operation.shape with
  | _ =>
    simp +decide only [notMem_append, name, pair, registers, f_notMem_registerText, f_notMem_hex,
      f_notMem_decimal]

theorem f_notMem_line (snapshot : Snapshot) : 'f' ∉ snapshot.line.toList := by
  have registers : 'f' ∉ (registersText snapshot.registers).toList :=
    fun member => absurd (mem_of_mem_registersText member) (by decide)
  have status : 'f' ∉ (Numeral.padRight 8 snapshot.status.name).toList := by
    cases snapshot.status with
    | _ => decide
  rw [Snapshot.line_eq]
  simp +decide only [notMem_append, registers, status, f_notMem_hex, f_notMem_decimal,
    f_notMem_mnemonic]

/-- What is no fault has no line that tells of one. -/
theorem isFaultLine_message {event : Event} (other : event.isFault = false) :
    isFaultLine event.message = false := by
  cases event with
  | faulted | runFaulted => cases other
  | stepped snapshot => exact isFaultLine_of_notMem 'f' (by decide) (f_notMem_line snapshot)
  -- the texts of these two ends have an f themselves, so another letter is what they lack
  | keyWaitEnded tick =>
    have number : 'u' ∉ (Numeral.decimal 1 tick).toList := Numeral.notMem_decimal (by decide)
    apply isFaultLine_of_notMem 'u' (by decide)
    unfold Event.message
    simp +decide only [notMem_append, number]
  | selfJump tick origin =>
    have number : 'P' ∉ (Numeral.decimal 1 tick).toList := Numeral.notMem_decimal (by decide)
    have address : 'P' ∉ (Numeral.hex 3 origin.toNat).toList := Numeral.notMem_hex (by decide)
    apply isFaultLine_of_notMem 'P' (by decide)
    unfold Event.message
    simp +decide only [notMem_append, number, address]
  | _ =>
    apply isFaultLine_of_notMem 'f' (by decide)
    unfold Event.message
    simp +decide only [notMem_append, f_notMem_hex, f_notMem_decimal, f_notMem_registerText]

end Chip8
