/-
# The text of an instruction

An instruction is shown as its operation's name and the operands of its row.
The word may be any word, also one that does not belong to the operation; then
the operands shown are the fields of that word. A word of the arithmetic family
shows both its registers under every operation that shows registers alone.
-/

import Chip8.Operation.Basic
import Chip8.Text.Numeral

namespace Chip8

/-- A register by its number. -/
def registerText (register : Fin 16) : String :=
  "V" ++ Numeral.hex 1 register.val

/-- Two registers, as operations on a pair show them. -/
def registerPairText (word : Word) : String :=
  registerText word.x ++ ", " ++ registerText word.y

/-- Comparisons of two registers show both. So does every operation that shows
registers alone when the word belongs to the arithmetic family. -/
def showsBothRegisters (operation : Operation) (word : Word) : Bool :=
  operation == .skipIfSame || operation == .skipUnlessSame || word.family == 8

/-- The operation's name, and the operands that it shows of the word. -/
def mnemonic (operation : Operation) (word : Word) : String :=
  match operation.shape with
  | .fixed => operation.name
  | .address => operation.name ++ " " ++ Numeral.hex 3 word.address.toNat
  | .registerByte =>
    operation.name ++ " " ++ registerText word.x ++ ", " ++ Numeral.hex 2 word.immediate.toNat
  | .registerPairNibble =>
    operation.name ++ " " ++ registerPairText word ++ ", " ++ Numeral.decimal 1 word.nibble
  | .registerPair | .register =>
    operation.name ++ " " ++
      if showsBothRegisters operation word then registerPairText word else registerText word.x

end Chip8
