/-
# Documents of plain lines

A mapping can be written with one line for each entry: a key, a colon, and a plain scalar or
nothing. Blank lines and comments may stand between the lines, and a mark in front of them.

What a parser makes of a document is not ours to decide. `ReadsPlainLines` is what YAML 1.1 says
about documents of this form, as far as their scalars are simple: letters, digits and low lines,
perhaps behind a minus. Such a scalar means what `resolve` says. Whatever is stated of a parser
that reads plain lines holds of every parser of the notation.

That decimals, truth values and the word for nothing are simple scalars is proved here.
-/

import Chip8.Config.Load
import Chip8.Proofs.Yaml.Scalar
import Chip8.Yaml.Document

namespace Chip8.Yaml

/-! ## Simple scalars -/

/-- The letters, the digits and the low line. -/
def wordCharacters : List Char :=
  "ABCDEFGHIJKLMNOPQRSTUVWXYZabcdefghijklmnopqrstuvwxyz0123456789_".toList

/-- A text of letters, digits and low lines. -/
structure IsWord (text : List Char) : Prop where
  nonempty : text ≠ []
  all : ∀ character ∈ text, character ∈ wordCharacters

/-- A word, perhaps behind a minus. -/
inductive IsSimple : List Char → Prop
  | word {text : List Char} (isWord : IsWord text) : IsSimple text
  | minus {text : List Char} (isWord : IsWord text) : IsSimple ('-' :: text)

/-- A simple scalar means a value. -/
structure PlainScalar (value : Value) (text : List Char) : Prop where
  simple : IsSimple text
  resolve_eq : resolve false text = some value

/-- A word means itself, where it stands for a key. -/
structure PlainKey (key : String) : Prop where
  isWord : IsWord key.toList
  resolve_eq : resolve true key.toList = some (.text key)
  length_le : key.toList.length ≤ keyReach

/-- All keys mean themselves. -/
def PlainKeys (entries : Entries) : Prop :=
  ∀ entry ∈ entries, ∃ key, entry.1 = .text key ∧ PlainKey key

/-! ## Lines -/

/-- Whether a character may stand in a line: a document may hold it, and no line ends there. -/
def isLineCharacter (character : Char) : Bool :=
  isAdmitted character && !(isBreak character || character == '\r' || character.toNat == 0x85)

/-- A line without an entry: blanks, and perhaps a comment. -/
inductive IsGap : List Char → Prop
  | blank (blanks : Nat) : IsGap (List.replicate blanks ' ')
  | comment (blanks : Nat) {text : List Char}
    (inLine : ∀ character ∈ text, isLineCharacter character = true) :
    IsGap (List.replicate blanks ' ' ++ '#' :: text)

section Lines

variable (spells : Value → List Char → Prop)

/-- What stands behind the colon of a key for a value. Nothing may be left out. -/
inductive Writes : Value → List Char → Prop
  | scalar {value : Value} {text : List Char} (spelled : spells value text) :
    Writes value (' ' :: text)
  | nothing (blanks : Nat) : Writes .null (List.replicate blanks ' ')

/-- Lines have these entries, one a line and in this order, and gaps besides. -/
inductive Lists : List (List Char) → Entries → Prop
  | nil : Lists [] []
  | gap {line : List Char} {lines : List (List Char)} {entries : Entries} (gap : IsGap line)
    (more : Lists lines entries) : Lists (line :: lines) entries
  | entry (key : String) {value : Value} {written : List Char} {lines : List (List Char)}
    {entries : Entries} (writes : Writes spells value written) (more : Lists lines entries) :
    Lists ((key.toList ++ ':' :: written) :: lines) ((.text key, value) :: entries)

end Lines

/-- The text of a document with these lines, perhaps with a mark of its start in front. -/
def documentText (marked : Bool) (lines : List (List Char)) : List Char :=
  ['\n'].intercalate (if marked then "---".toList :: lines else lines)

/-- The bytes of a text. -/
def bytesOf (text : List Char) : List Byte :=
  (String.ofList text).toUTF8.data.toList

/-- What the notation says about documents of plain lines. With entries, each of another key, they
hold the mapping of their entries, and without entries nothing. -/
structure ReadsPlainLines (parser : Parser) : Prop where
  mapping {lines : List (List Char)} {entries : Entries} (marked : Bool)
    (lists : Lists PlainScalar lines entries) (plain : PlainKeys entries)
    (single : (entries.map Prod.fst).Nodup) (some_entry : entries ≠ []) :
    parser (bytesOf (documentText marked lines)) = .ok (.mapping entries)
  nothing {lines : List (List Char)} (marked : Bool) (lists : Lists PlainScalar lines []) :
    parser (bytesOf (documentText marked lines)) = .ok .null

/-! ## Spellings -/

variable {spells others : Value → List Char → Prop}

theorem Writes.mono (also : ∀ value text, spells value text → others value text) {value : Value}
    {written : List Char} (writes : Writes spells value written) : Writes others value written := by
  cases writes with
  | scalar spelled => exact .scalar (also _ _ spelled)
  | nothing blanks => exact .nothing blanks

theorem Lists.mono (also : ∀ value text, spells value text → others value text)
    {lines : List (List Char)} {entries : Entries} (lists : Lists spells lines entries) :
    Lists others lines entries := by
  induction lists with
  | nil => exact .nil
  | gap gap _ ih => exact .gap gap ih
  | entry key writes _ ih => exact .entry key (writes.mono also) ih

theorem isWord_toDigits (number : Nat) : IsWord (Nat.toDigits 10 number) where
  nonempty := Nat.toDigits_ne_nil
  all character member :=
    (Text.forall_mem_of_all (by decide) : ∀ digit ∈ Text.decimals, digit ∈ wordCharacters) _
      (Text.mem_decimals_of_mem_toDigits member)

/-- Integers in decimals, truth values as words and the word for nothing are simple scalars. -/
theorem WritesScalar.plainScalar {value : Value} {text : List Char}
    (writes : WritesScalar value text) : PlainScalar value text := by
  refine ⟨?_, writes.resolve_eq⟩
  cases writes with
  | @integer number =>
    rw [integerText, Numeral.sign]
    split
    · exact .minus (isWord_toDigits number.natAbs)
    · exact .word (isWord_toDigits number.natAbs)
  | boolean flag =>
    cases flag with
    | _ => exact .word ⟨by decide, Text.forall_mem_of_all (by decide)⟩
  | null => exact .word ⟨by decide, Text.forall_mem_of_all (by decide)⟩

end Chip8.Yaml
