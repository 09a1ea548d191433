/-
# What the text of an instruction tells

The text of an instruction is the name of its operation and, behind a blank, the operands that it
shows. No name has a blank in it, so the operation is read off the text; and operands are written
with a comma between them, which no number has, so those that are shown are read off as well. They
are just the ones that the row of the operation leaves free: where two registers are free both are
shown, in the arithmetic family and in comparisons alike, and where one is free the family is
another and one is shown.

Since a word is made of its row and the operands free in it, its text tells which word it is.
-/

import Chip8.Operation.Mnemonic
import Chip8.Proofs.Operation.Inverse
import Chip8.Proofs.Text.Padded

namespace Chip8

open Operation

/-! ## The operation -/

theorem blank_notMem_name (operation : Operation) : ' ' ∉ operation.name.toList := by
  cases operation with
  | _ => decide

/-- The operation that a text begins with the name of. -/
def operationOf? (text : String) : Option Operation :=
  ofName? (String.ofList (text.toList.takeWhile (· != ' ')))

theorem operationOf?_name_append (operation : Operation) {rest : String}
    (apart : ∀ first ∈ rest.toList.head?, first = ' ') :
    operationOf? (operation.name ++ rest) = some operation := by
  have named : (operation.name ++ rest).toList.takeWhile (· != ' ') = operation.name.toList := by
    rw [String.toList_append]
    refine (Text.span_exact ?_ ?_).1
    · intro character member
      exact bne_iff_ne.mpr (ne_of_mem_of_not_mem member (blank_notMem_name operation))
    · intro first head
      rw [apart first head]
      rfl
  rw [operationOf?, named, String.ofList_toList, ofName?_name]

/-- An instruction is shown under the name of its operation. -/
theorem operationOf?_mnemonic (operation : Operation) (word : Word) :
    operationOf? (mnemonic operation word) = some operation := by
  have apart (rest : String) : ∀ first ∈ (" " ++ rest).toList.head?, first = ' ' := by
    rw [String.toList_append]
    rintro _ ⟨⟩
    rfl
  rw [mnemonic]
  cases operation.shape with
  | fixed =>
    have alone : operationOf? (operation.name ++ "") = some operation :=
      operationOf?_name_append operation nofun
    rwa [String.append_empty] at alone
  | _ =>
    simp only [String.append_assoc]
    exact operationOf?_name_append operation (apart _)

/-! ## The operands -/

theorem registerText_inj {left right : Fin 16} :
    registerText left = registerText right ↔ left = right := by
  rw [registerText, registerText, String.append_right_inj, Numeral.hex_inj, Fin.val_inj]

theorem comma_notMem_registerText (register : Fin 16) : ',' ∉ (registerText register).toList := by
  revert register
  decide

/-- An operand behind a register and a comma is told apart, and so is the register. -/
theorem registerText_append_inj {left right : Fin 16} {rest more : String}
    (same : registerText left ++ (", " ++ rest) = registerText right ++ (", " ++ more)) :
    left = right ∧ rest = more :=
  (append_tag_inj ',' (by decide) (comma_notMem_registerText left)
    (comma_notMem_registerText right) same).imp_left registerText_inj.mp

theorem registerPairText_inj {left right : Word} :
    registerPairText left = registerPairText right ↔ left.x = right.x ∧ left.y = right.y := by
  constructor
  · intro same
    rw [registerPairText, registerPairText, String.append_assoc, String.append_assoc] at same
    exact (registerText_append_inj same).imp_right registerText_inj.mp
  · rintro ⟨x, y⟩
    rw [registerPairText, registerPairText, x, y]

variable {operation : Operation} {left right word : Word}

/-- Both registers are shown where two are free: an operation on two registers compares them or
is of the arithmetic family, and one on a single register is neither. -/
theorem showsBothRegisters_eq (row : operation.Matches word) :
    showsBothRegisters operation word = decide (operation.shape = .registerPair) := by
  rw [showsBothRegisters, row.family]
  cases operation with
  | _ => rfl

theorem keep_eq_of_mnemonic_eq (left_row : operation.Matches left)
    (right_row : operation.Matches right)
    (same : mnemonic operation left = mnemonic operation right) :
    operation.shape.keep (Operands.ofWord left) = operation.shape.keep (Operands.ofWord right) := by
  rw [mnemonic, mnemonic, showsBothRegisters_eq left_row, showsBothRegisters_eq right_row] at same
  cases shaped : operation.shape with
  | fixed => rfl
  | address =>
    simp only [shaped, String.append_right_inj, Numeral.hex_inj] at same
    simp only [Shape.keep, Operands.ofWord, same]
  | registerByte =>
    simp only [shaped, String.append_assoc, String.append_right_inj] at same
    obtain ⟨x, bytes⟩ := registerText_append_inj same
    simp only [Shape.keep, Operands.ofWord, x, Numeral.hex_inj.mp bytes]
  | registerPairNibble =>
    simp only [shaped, registerPairText, String.append_assoc, String.append_right_inj] at same
    obtain ⟨x, behind⟩ := registerText_append_inj same
    obtain ⟨y, nibbles⟩ := registerText_append_inj behind
    simp only [Shape.keep, Operands.ofWord, x, y, Numeral.decimal_inj.mp nibbles]
  | registerPair =>
    simp only [shaped, decide_true, ↓reduceIte, String.append_right_inj,
      registerPairText_inj] at same
    simp only [Shape.keep, Operands.ofWord, same]
  | register =>
    simp only [shaped, reduceCtorEq, decide_false, Bool.false_eq_true, ↓reduceIte,
      String.append_right_inj] at same
    simp only [Shape.keep, Operands.ofWord, registerText_inj.mp same]

/-- Operands make one word exactly if those that the row names are the same, cut to their widths. -/
theorem encode_keep_inj {first second : Operands} :
    encode operation (operation.shape.keep first) = encode operation (operation.shape.keep second) ↔
      operation.shape.keep first.cut = operation.shape.keep second.cut := by
  have read (operands : Operands) : operation.shape.keep
      (Operands.ofWord (encode operation (operation.shape.keep operands))) =
        operation.shape.keep operands.cut :=
    keep_ofWord_of_sum (selector_code operation) (toNat_encode_keep operation operands)
  constructor
  · intro same
    rw [← read first, same, read]
  · intro same
    rw [← (matches_encode operation first).encode_eq, ← (matches_encode operation second).encode_eq,
      read, read, same]

/-- What matches a row is told by its text. -/
theorem mnemonic_inj {other : Operation} (left_row : operation.Matches left)
    (right_row : other.Matches right) :
    mnemonic operation left = mnemonic other right ↔ operation = other ∧ left = right := by
  constructor
  · intro same
    have named := congrArg operationOf? same
    rw [operationOf?_mnemonic, operationOf?_mnemonic] at named
    cases named
    have kept := keep_eq_of_mnemonic_eq left_row right_row same
    rw [← left_row.encode_eq, ← right_row.encode_eq, kept]
    exact ⟨rfl, rfl⟩
  · rintro ⟨rfl, rfl⟩
    rfl

end Chip8
