/-
# Reading and writing instruction words

A row of the table fixes some digits of a word and gives the others to its operands, which do
not overlap there. So a word is the number that its fixed digits make plus the number that
its operands make, and whatever is to be said of reading and writing is a matter of adding
these two.

The main statement is that reading and writing are inverse to each other. What was read is
written back from its operation and the operands that its row names, and what was written is
read back, operands cut to their widths, unless it is a call to the host's processor at one
of the two words that have rows of their own.
-/

import Chip8.Operation.Encode
import Chip8.Proofs.Operation.Table
import Chip8.Proofs.Word
import Mathlib.Tactic.IntervalCases

namespace Chip8

/-- The fields of a word, as operands. -/
def Operands.ofWord (word : Word) : Operands :=
  { x := word.x.val
    y := word.y.val
    nibble := word.nibble
    immediate := word.immediate.toNat
    address := word.address.toNat }

/-- Operands cut to the widths of their fields. -/
def Operands.cut (operands : Operands) : Operands :=
  { x := operands.x % 16
    y := operands.y % 16
    nibble := operands.nibble % 16
    immediate := operands.immediate % 256
    address := operands.address % 4096 }

theorem Operands.ofWord_eq (word : Word) :
    Operands.ofWord word =
      { x := word.toNat / 256 % 16
        y := word.toNat / 16 % 16
        nibble := word.toNat % 16
        immediate := word.toNat % 256
        address := word.toNat % 4096 } := by
  rw [Operands.ofWord, Word.toNat_immediate, Word.toNat_address]
  rfl

namespace Operation

/-- The digits that a row fixes are F here, and the free ones are zero. -/
def Shape.mask : Shape → Word
  | fixed => 0xFFFF
  | address | registerByte | registerPairNibble => 0xF000
  | registerPair => 0xF00F
  | register => 0xF0FF

/-- The operands that a row names, and zero for the others. -/
def Shape.keep (operands : Operands) : Shape → Operands
  | fixed => {}
  | address => { address := operands.address }
  | registerByte => { x := operands.x, immediate := operands.immediate }
  | registerPair => { x := operands.x, y := operands.y }
  | registerPairNibble => { x := operands.x, y := operands.y, nibble := operands.nibble }
  | register => { x := operands.x }

/-- The number that the fixed digits of a row make in a word. -/
def Shape.selector (word : Word) : Shape → Nat
  | fixed => word.toNat
  | address | registerByte | registerPairNibble => 4096 * (word.toNat / 4096)
  | registerPair => 4096 * (word.toNat / 4096) + word.toNat % 16
  | register => 4096 * (word.toNat / 4096) + word.toNat % 256

/-- The number that the operands of a row make. -/
def Shape.amount (operands : Operands) : Shape → Int
  | fixed => 0
  | address => operands.address % 4096
  | registerByte => operands.x % 16 * 256 + operands.immediate % 256
  | registerPair => operands.x % 16 * 256 + operands.y % 16 * 16
  | registerPairNibble => operands.x % 16 * 256 + operands.y % 16 * 16 + operands.nibble % 16
  | register => operands.x % 16 * 256

variable {operation : Operation} {word : Word} (shape : Shape) (operands : Operands)

/-! ## Fixed digits -/

theorem digit_mask : ∀ place < 4, shape.mask.digit place = 0 ∨ shape.mask.digit place = 15 := by
  cases shape with
  | _ => decide

theorem digit_and_mask {place : Nat} (inside : place < 4) (word : Word) :
    (word &&& shape.mask).digit place =
      if shape.mask.digit place = 0 then 0 else word.digit place := by
  rw [Word.digit_and]
  rcases digit_mask shape place inside with free | fixed
  · rw [free, if_pos rfl, Nat.and_zero]
  · rw [fixed, if_neg (by decide)]
    exact (Nat.and_two_pow_sub_one_eq_mod _ 4).trans (Nat.mod_eq_of_lt (word.digit_lt place))

theorem toNat_and_mask (word : Word) : (word &&& shape.mask).toNat = shape.selector word := by
  have small := word.toNat_lt
  rw [Word.toNat_eq_digits, digit_and_mask shape (by decide), digit_and_mask shape (by decide),
    digit_and_mask shape (by decide), digit_and_mask shape (by decide)]
  cases shape with
  | _ =>
    simp only [Shape.mask, Word.digit, Shape.selector, UInt16.reduceToNat, Nat.reduceMul,
      Nat.reducePow, Nat.reduceDiv, Nat.reduceMod, OfNat.ofNat_ne_zero, ↓reduceIte]
    omega

/-- The word of an operation is all selector. -/
theorem selector_code (operation : Operation) :
    operation.shape.selector operation.code = operation.code.toNat := by
  cases operation with
  | _ => rfl

theorem matches_iff :
    operation.Matches word ↔ operation.shape.selector word = operation.code.toNat := by
  rw [← selector_code, Matches]
  cases operation.shape with
  | fixed => exact UInt16.toNat_inj.symm
  | address | registerByte | registerPairNibble =>
    simp only [Shape.selector, Word.family]
    omega
  | registerPair =>
    simp only [Shape.selector, Word.family, Word.nibble]
    omega
  | register =>
    simp only [Shape.selector, Word.family, ← UInt8.toNat_inj, Word.toNat_immediate]
    omega

theorem Matches.code_eq (row : operation.Matches word) :
    operation.code = word &&& operation.shape.mask := by
  apply UInt16.toNat_inj.mp
  rw [toNat_and_mask, matches_iff.mp row]

/-! ## Operands side by side -/

theorem toNat_pair (x y : Int) :
    ((Word.ofInt (x % 16 * 256) ||| Word.ofInt (y % 16 * 16)).toNat : Int) =
      x % 16 * 256 + y % 16 * 16 := by
  have first := Word.toNat_ofInt (x % 16 * 256)
  have second := Word.toNat_ofInt (y % 16 * 16)
  rw [Word.toNat_or_of_lt 8 (by omega) (by omega)]
  omega

theorem toNat_toWord_keep : ((shape.keep operands).toWord.toNat : Int) = shape.amount operands := by
  cases shape with
  | fixed =>
    have laid : (Shape.fixed.keep operands).toWord = 0 := by simp [Shape.keep, Operands.toWord]
    rw [laid]
    rfl
  | address =>
    have laid : (Shape.address.keep operands).toWord = Word.ofInt (operands.address % 4096) := by
      simp [Shape.keep, Operands.toWord]
    rw [laid, Word.toNat_ofInt, Shape.amount]
    omega
  | registerByte =>
    have laid : (Shape.registerByte.keep operands).toWord =
        Word.ofInt (operands.x % 16 * 256) ||| Word.ofInt (operands.immediate % 256) := by
      simp [Shape.keep, Operands.toWord]
    have first := Word.toNat_ofInt (operands.x % 16 * 256)
    have second := Word.toNat_ofInt (operands.immediate % 256)
    rw [laid, Word.toNat_or_of_lt 8 (by omega) (by omega), Shape.amount]
    omega
  | registerPair =>
    have laid : (Shape.registerPair.keep operands).toWord =
        Word.ofInt (operands.x % 16 * 256) ||| Word.ofInt (operands.y % 16 * 16) := by
      simp [Shape.keep, Operands.toWord]
    rw [laid]
    exact toNat_pair operands.x operands.y
  | registerPairNibble =>
    have laid : (Shape.registerPairNibble.keep operands).toWord =
        Word.ofInt (operands.x % 16 * 256) ||| Word.ofInt (operands.y % 16 * 16) |||
          Word.ofInt (operands.nibble % 16) := by
      simp [Shape.keep, Operands.toWord]
    have pair := toNat_pair operands.x operands.y
    have last := Word.toNat_ofInt (operands.nibble % 16)
    rw [laid, Word.toNat_or_of_lt 4 (by omega) (by omega), Shape.amount]
    omega
  | register =>
    have laid : (Shape.register.keep operands).toWord = Word.ofInt (operands.x % 16 * 256) := by
      simp [Shape.keep, Operands.toWord]
    rw [laid, Word.toNat_ofInt, Shape.amount]
    omega

/-- Operands stay out of the fixed digits, because their number has nothing there. -/
theorem digit_toWord_keep {place : Nat} (inside : place < 4)
    (fixed : shape.mask.digit place = 15) : (shape.keep operands).toWord.digit place = 0 := by
  have amount := toNat_toWord_keep shape operands
  cases shape with
  | _ =>
    simp only [Shape.amount] at amount
    simp only [Shape.mask, Word.digit, UInt16.reduceToNat] at fixed ⊢
    interval_cases place
    all_goals omega

/-- The word of an operation has only zeros where its operands go. -/
theorem digit_code {place : Nat} (inside : place < 4)
    (free : operation.shape.mask.digit place = 0) : operation.code.digit place = 0 := by
  have masked : operation.code &&& operation.shape.mask = operation.code :=
    (matches_iff.mpr (selector_code operation)).code_eq.symm
  rw [← masked, digit_and_mask operation.shape inside, if_pos free]

theorem toNat_encode_keep (operation : Operation) (operands : Operands) :
    ((encode operation (operation.shape.keep operands)).toNat : Int) =
      operation.code.toNat + operation.shape.amount operands := by
  have apart : ∀ place < 4, operation.code.digit place = 0 ∨
      (operation.shape.keep operands).toWord.digit place = 0 := by
    intro place inside
    rcases digit_mask operation.shape place inside with free | fixed
    · exact .inl (digit_code inside free)
    · exact .inr (digit_toWord_keep operation.shape operands inside fixed)
  have amount := toNat_toWord_keep operation.shape operands
  rw [encode, encodeOver, Word.ofInt_toNat, Word.toNat_or_of_apart apart]
  omega

/-! ## From a word and back -/

theorem toNat_eq_selector_add (word : Word) :
    (word.toNat : Int) = shape.selector word + shape.amount (Operands.ofWord word) := by
  rw [Operands.ofWord_eq]
  cases shape with
  | _ =>
    simp only [Shape.selector, Shape.amount]
    omega

/-- What was read is written back. -/
theorem Matches.encode_eq (row : operation.Matches word) :
    encode operation (operation.shape.keep (Operands.ofWord word)) = word := by
  have selected := matches_iff.mp row
  have written := toNat_encode_keep operation (Operands.ofWord word)
  have read := toNat_eq_selector_add operation.shape word
  apply UInt16.toNat_inj.mp
  omega

/-! ## From operands and back -/

section Sum

variable {shape operands} {base : Word} (bare : shape.selector base = base.toNat)
  (sum : (word.toNat : Int) = base.toNat + shape.amount operands)

include bare sum

theorem selector_of_sum : shape.selector word = base.toNat := by
  cases shape with
  | _ =>
    simp only [Shape.selector, Shape.amount] at bare sum ⊢
    omega

theorem keep_ofWord_of_sum : shape.keep (Operands.ofWord word) = shape.keep operands.cut := by
  rw [Operands.ofWord_eq]
  cases shape with
  | fixed => rfl
  | _ =>
    simp only [Shape.selector, Shape.amount] at bare sum
    simp only [Shape.keep, Operands.cut, Operands.mk.injEq, true_and, and_true]
    omega

end Sum

theorem matches_encode (operation : Operation) (operands : Operands) :
    operation.Matches (encode operation (operation.shape.keep operands)) :=
  matches_iff.mpr
    (selector_of_sum (selector_code operation) (toNat_encode_keep operation operands))

/-- A call to the host's processor is written like an operation with a row of one word exactly
if it has that word as its address. -/
theorem matches_encode_systemCall {other : Operation} (shaped : other.shape = .fixed) :
    other.Matches (encode .systemCall (Shape.address.keep operands)) ↔
      operands.address % 4096 = other.code.toNat := by
  have written : ((encode .systemCall (Shape.address.keep operands)).toNat : Int) =
      0 + operands.address % 4096 := toNat_encode_keep .systemCall operands
  rw [matches_iff, shaped, Shape.selector]
  omega

theorem selects_encode_iff (operation : Operation) (operands : Operands) :
    Selects (encode operation (operation.shape.keep operands)) operation ↔
      (operation = .systemCall →
        operands.address % 4096 ≠ 0x0E0 ∧ operands.address % 4096 ≠ 0x0EE) := by
  have row := matches_encode operation operands
  have clears : clearScreen.Matches _ ↔ _ := matches_encode_systemCall operands rfl
  have returns : ret.Matches _ ↔ _ := matches_encode_systemCall operands rfl
  constructor
  · intro selected system
    obtain ⟨notClear, notReturn⟩ := selected.first system
    subst system
    exact ⟨mt clears.mpr notClear, mt returns.mpr notReturn⟩
  · intro apart
    refine ⟨row, ?_⟩
    intro system
    obtain ⟨notClear, notReturn⟩ := apart system
    subst system
    exact ⟨mt clears.mp notClear, mt returns.mp notReturn⟩

/-! ## Reading and writing are inverse -/

end Operation

open Operation

theorem isSome_decode_iff {word : Word} :
    (decode word).isSome ↔ ∃ operation : Operation, operation.Matches word := by
  rw [← not_iff_not, Option.not_isSome_iff_eq_none, decode_eq_none_iff, not_exists]

/-- The low sixteen bits of an integer are read as an operation exactly if they match a row of
the table. Then the operation's own word is what is left of them where the row leaves no digit
free, and writing the operation with the operands that its row names gives them back.
Conversely, an operation written with any operands in the places that its row names is read
back with these operands, cut to their widths. The one exception is a call to the host's
processor at an address whose word has a row of its own. -/
theorem decode_encode_inverse :
    (∀ value : Int,
      let word := Word.ofInt value
      let fields := Operands.ofWord word
      (word.toNat : Int) = value % 65536 ∧
      (word.family : Int) = value / 4096 % 16 ∧
      fields =
        { x := value / 256 % 16
          y := value / 16 % 16
          nibble := value % 16
          immediate := value % 256
          address := value % 4096 } ∧
      ((decode word).isSome ↔ ∃ operation : Operation, operation.Matches word) ∧
      ∀ operation : Operation, decode word = some operation →
        operation.Matches word ∧
        operation.code = word &&& operation.shape.mask ∧
        encode operation (operation.shape.keep fields) = word) ∧
    ∀ (operation : Operation) (operands : Operands),
      let word := encode operation (operation.shape.keep operands)
      (decode word = some operation ↔
        (operation = .systemCall →
          operands.address % 4096 ≠ 0x0E0 ∧ operands.address % 4096 ≠ 0x0EE)) ∧
      operation.shape.keep (Operands.ofWord word) = operation.shape.keep operands.cut := by
  constructor
  · intro value word fields
    have low : (word.toNat : Int) = value % 65536 := by
      rw [Word.toNat_ofInt]
      omega
    refine ⟨low, ?_, ?_, isSome_decode_iff, ?_⟩
    · rw [Word.family]
      omega
    · show Operands.ofWord word = _
      rw [Operands.ofWord_eq, low]
      simp only [Operands.mk.injEq]
      omega
    · intro operation decoded
      have row := (selects_of_decode decoded).row
      exact ⟨row, row.code_eq, row.encode_eq⟩
  · intro operation operands word
    exact ⟨decode_eq_some_iff.trans (selects_encode_iff operation operands),
      keep_ofWord_of_sum (selector_code operation) (toNat_encode_keep operation operands)⟩

/-- A word of a drawing that is given as a negative number; a store written with a register
number below zero; a call to the host's processor that would be a return. -/
theorem decode_encode_inverse_at_wide_integers :
    let drawing : Int := 0xDA2F - 3 * 65536
    let store := encode .storeRegisters { x := -1 }
    let call := encode .systemCall { address := 0x10EE }
    (decode (Word.ofInt drawing) = some .draw ∧
      encode .draw { x := 0xA, y := 2, nibble := 0xF } = Word.ofInt drawing) ∧
    (decode store = some .storeRegisters ∧ store.x = 15) ∧
    decode call ≠ some .systemCall := by
  intro drawing store call
  obtain ⟨read, written⟩ := decode_encode_inverse
  have decoded : decode (Word.ofInt drawing) = some .draw := by decide +kernel
  obtain ⟨_, _, fields, _, back⟩ := read drawing
  have again := (back .draw decoded).2.2
  obtain ⟨stores, kept⟩ := written .storeRegisters { x := -1 }
  obtain ⟨calls, _⟩ := written .systemCall { address := 0x10EE }
  refine ⟨⟨decoded, ?_⟩, ⟨stores.mpr nofun, ?_⟩, ?_⟩
  · rw [fields] at again
    exact again
  · have register : (store.x.val : Int) = 15 := congrArg Operands.x kept
    exact Fin.ext (Int.ofNat_inj.mp register)
  · intro decoded
    exact absurd rfl (calls.mp decoded rfl).2

end Chip8
