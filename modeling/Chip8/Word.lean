/-
# Bytes and instruction words

The machine computes on bytes and on 16-bit words. An instruction word is read
through fixed fields: the family nibble that stands first, the register
numbers X and Y, the last nibble, the immediate byte, and the 12-bit address.
The fields overlap on purpose, because an operation uses only some of them.

Every field is stated with division and remainder on natural numbers, so that a
statement about a field is a statement of linear arithmetic.
-/

namespace Chip8

/-- One memory cell, register or timer. -/
abbrev Byte := UInt8

/-- One instruction word, address or stack entry. -/
abbrev Word := UInt16

/-- The low eight bits of an integer in two's complement. -/
def Byte.ofInt (value : Int) : Byte :=
  UInt8.ofNat (value % 256).toNat

namespace Word

/-- The low sixteen bits of an integer in two's complement. -/
def ofInt (value : Int) : Word :=
  UInt16.ofNat (value % 65536).toNat

/-- A word whose high byte comes first. -/
def ofBytes (high low : Byte) : Word :=
  UInt16.ofNat (256 * high.toNat + low.toNat)

/-- The first byte of a word in memory. -/
def highByte (word : Word) : Byte :=
  UInt8.ofNat (word.toNat / 256)

/-- The second byte of a word in memory. -/
def lowByte (word : Word) : Byte :=
  UInt8.ofNat (word.toNat % 256)

/-! ## Fields of an instruction word -/

/-- The first nibble, which selects a family of operations. -/
def family (word : Word) : Nat :=
  word.toNat / 4096

/-- The register number in the second nibble. -/
def x (word : Word) : Fin 16 :=
  ⟨word.toNat / 256 % 16, Nat.mod_lt _ (by decide)⟩

/-- The register number in the third nibble. -/
def y (word : Word) : Fin 16 :=
  ⟨word.toNat / 16 % 16, Nat.mod_lt _ (by decide)⟩

/-- The last nibble. -/
def nibble (word : Word) : Nat :=
  word.toNat % 16

/-- The immediate byte: the last two nibbles. -/
def immediate (word : Word) : Byte :=
  UInt8.ofNat (word.toNat % 256)

/-- The address: the last three nibbles. -/
def address (word : Word) : Word :=
  UInt16.ofNat (word.toNat % 4096)

/-! ## The numbers behind the words -/

theorem toNat_ofInt (value : Int) : (ofInt value).toNat = (value % 65536).toNat := by
  have bound : (value % 65536).toNat < 65536 := by omega
  simpa [ofInt] using Nat.mod_eq_of_lt bound

theorem toNat_ofBytes (high low : Byte) :
    (ofBytes high low).toNat = 256 * high.toNat + low.toNat := by
  have highBound := high.toNat_lt
  have lowBound := low.toNat_lt
  have bound : 256 * high.toNat + low.toNat < 65536 := by omega
  simpa [ofBytes] using Nat.mod_eq_of_lt bound

theorem toNat_immediate (word : Word) : word.immediate.toNat = word.toNat % 256 := by
  simp [immediate]

theorem toNat_address (word : Word) : word.address.toNat = word.toNat % 4096 := by
  have bound : word.toNat % 4096 < 65536 := by omega
  simpa [address] using Nat.mod_eq_of_lt bound

theorem toNat_add_two {word : Word} (room : word.toNat < 0xFFFE) :
    (word + 2).toNat = word.toNat + 2 := by
  have two : (2 : Word).toNat = 2 := rfl
  rw [UInt16.toNat_add, two]
  omega

theorem nibble_lt (word : Word) : word.nibble < 16 :=
  Nat.mod_lt _ (by decide)

/-- Taking the low bits of a word already taken changes nothing. -/
@[simp] theorem ofInt_toNat (word : Word) : ofInt word.toNat = word := by
  apply UInt16.toNat_inj.mp
  have bound := word.toNat_lt
  rw [toNat_ofInt]
  omega

end Word

@[simp] theorem Byte.toNat_ofInt (value : Int) :
    (Byte.ofInt value).toNat = (value % 256).toNat := by
  have bound : (value % 256).toNat < 256 := by omega
  simpa [Byte.ofInt] using Nat.mod_eq_of_lt bound

@[simp] theorem Byte.ofInt_toNat (byte : Byte) : Byte.ofInt byte.toNat = byte := by
  apply UInt8.toNat_inj.mp
  have bound := byte.toNat_lt
  rw [Byte.toNat_ofInt]
  omega

end Chip8
