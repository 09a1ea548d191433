/-
# Reading files of plain lines

The reader of documents reads plain lines as the notation has it. A document of such lines is the
mapping of their entries, or nothing if there is none, with a mark of its start or without. In a
file it is read back too: it has no line ends but line feeds, no control characters, and no mark of
byte order at its start, so nothing of it is changed before it is read.
-/

import Chip8.Proofs.Yaml.Lines

namespace Chip8.Yaml

variable {key : String} {value : Value} {text written : List Char} {lines : List (List Char)}
  {entries : Entries}

/-! ## Documents -/

theorem intercalate_cons (line : List Char) (lines : List (List Char)) :
    ['\n'].intercalate (line :: lines) = line ++ following lines := by
  induction lines generalizing line with
  | nil => rfl
  | cons next lines ih =>
    rw [following_cons, ← ih next]
    rfl

/-- What is met does not depend on whether a line ended before. -/
theorem skipGapFrom_fst (inComment crossed crossed' : Bool) (column : Nat) (text : List Char) :
    (skipGapFrom inComment crossed column text).1 =
      (skipGapFrom inComment crossed' column text).1 := by
  induction text generalizing inComment column with
  | nil => rfl
  | cons first rest ih =>
    rw [skipGapFrom, skipGapFrom]
    split
    · rfl
    · split
      · exact ih true (column + 1)
      · split
        · exact ih false (column + 1)
        · split
          · exact ih true (column + 1)
          · rfl

/-- There are no more entries than characters. -/
theorem length_le_following (lists : Lists PlainScalar lines entries) :
    entries.length ≤ (following lines).length := by
  induction lists with
  | nil => exact Nat.le_refl 0
  | gap _ _ ih | entry _ _ _ ih =>
    simp only [following_cons, List.length_cons, List.length_append]
    omega

/-- What a document means that has these entries. One without entries holds nothing. -/
def listed (entries : Entries) : Value :=
  if entries = [] then .null else .mapping entries

/-- A document is read from its first key on. -/
theorem topNode_of_lists (plainKey : PlainKey key) (writes : Writes PlainScalar value written)
    (lists : Lists PlainScalar lines entries) (plain : PlainKeys entries) :
    ∃ last, topNode true ⟨key.toList ++ ':' :: (written ++ following lines), 0⟩ =
        some (.mapping ((.text key, value) :: entries), last) ∧ last.skipGap.1.rest = [] := by
  have room : 4 * (key.toList ++ ':' :: (written ++ following lines)).length + 4 =
      4 * (key.toList ++ ':' :: (written ++ following lines)).length - entries.length +
        entries.length + 3 + 1 := by
    have fewer := length_le_following lists
    simp only [List.length_append, List.length_cons]
    omega
  obtain ⟨last, read, ended⟩ := blockPairs_of_lists plainKey writes lists plain
    (4 * (key.toList ++ ':' :: (written ++ following lines)).length - entries.length) []
  refine ⟨last, ?_, ended⟩
  rw [topNode, room, blockNode]
  dsimp only
  rw [plainKey.simple.opens.notEntry, if_neg Bool.false_ne_true, if_pos rfl,
    key?_of_plain plainKey (blankOrEnd_of_writes writes lines)]
  exact read

theorem onlyEndMarks_of_ended {last : Cursor} (ended : last.skipGap.1.rest = []) (marks : Nat) :
    onlyEndMarks (marks + 1) last = true := by
  rw [onlyEndMarks]
  simp [ended]

/-- What is met first in a document without a mark. -/
theorem reaches_document (lists : Lists PlainScalar lines entries) (plain : PlainKeys entries) :
    ∃ crossed, Reaches entries ((Cursor.mk (documentText false lines) 0).skipGap.1, crossed) := by
  cases lines with
  | nil =>
    cases lists
    exact ⟨false, .nothing rfl false⟩
  | cons line lines =>
    have reaches := reaches_following lists plain false false 0
    have same : (Cursor.mk (documentText false (line :: lines)) 0).skipGap.1 =
        (skipGapFrom false false 0 (following (line :: lines))).1 := by
      rw [following_cons, skipGapFrom_break, ← intercalate_cons]
      exact skipGapFrom_fst false false true 0 _
    rw [same]
    exact ⟨_, reaches⟩

theorem document_unmarked (lists : Lists PlainScalar lines entries) (plain : PlainKeys entries) :
    document ⟨documentText false lines, 0⟩ = some (listed entries) := by
  obtain ⟨crossed, reaches⟩ := reaches_document lists plain
  rw [document]
  generalize (Cursor.mk (documentText false lines) 0).skipGap = first at reaches
  obtain ⟨first, _⟩ := first
  cases reaches with
  | nothing ended => exact if_pos (List.isEmpty_iff.mpr ended)
  | @entry key value written lines entries plainKey writes more =>
    obtain ⟨last, read, ended⟩ := topNode_of_lists plainKey writes more plain.tail
    obtain ⟨notStart, notEnd, _⟩ :=
      not_isMark_of_plain plainKey (':' :: (written ++ following lines)) 0
    simp [notStart, notEnd, read, onlyEndMarks_of_ended ended, listed]

/-- Behind the mark of its start a document is read as without it. -/
theorem document_marked (lists : Lists PlainScalar lines entries) (plain : PlainKeys entries) :
    document ⟨documentText true lines, 0⟩ = some (listed entries) := by
  have text : documentText true lines = '-' :: '-' :: '-' :: following lines :=
    intercalate_cons "---".toList lines
  have first : (Cursor.mk ('-' :: '-' :: '-' :: following lines) 0).skipGap =
      (⟨'-' :: '-' :: '-' :: following lines, 0⟩, false) := rfl
  have start : (Cursor.mk ('-' :: '-' :: '-' :: following lines) 0).isStartMark = true :=
    blankOrEnd_following lines
  have behind : (Cursor.mk ('-' :: '-' :: '-' :: following lines) 0).drop 3 =
      ⟨following lines, 3⟩ := rfl
  have reaches : Reaches entries (Cursor.mk (following lines) 3).skipGap :=
    reaches_following lists plain false false 3
  rw [text, document, first]
  simp only [start, behind, List.isEmpty_cons, Bool.false_eq_true, ↓reduceIte, Bool.true_and]
  cases met : (Cursor.mk (following lines) 3).skipGap with
  | mk next crossed =>
    rw [met] at reaches
    cases reaches with
    | nothing ended =>
      have none_left : (Cursor.mk (following lines) 3).skipGap.1.rest = [] := met ▸ ended
      simp [Cursor.atEnd, ended, onlyEndMarks_of_ended none_left, listed]
    | @entry key value written lines' entries plainKey writes more =>
      obtain ⟨last, read, ended⟩ := topNode_of_lists plainKey writes more plain.tail
      obtain ⟨_, _, notEnded⟩ :=
        not_isMark_of_plain plainKey (':' :: (written ++ following lines')) 0
      have notEnd : (Cursor.mk ('-' :: '-' :: '-' :: following lines) 0).isEndMark = false := rfl
      simp [notEnded, notEnd, read, onlyEndMarks_of_ended ended, listed]

/-- A document of lines is read as their entries. -/
theorem document_of_lists (lists : Lists PlainScalar lines entries) (plain : PlainKeys entries)
    (marked : Bool) :
    document ⟨documentText marked lines, 0⟩ = some (listed entries) := by
  cases marked with
  | false => exact document_unmarked lists plain
  | true => exact document_marked lists plain

/-! ## Files -/

theorem isLineCharacter_of_mem_blanks {blanks : Nat} {character : Char}
    (member : character ∈ List.replicate blanks ' ') : isLineCharacter character = true := by
  rw [List.eq_of_mem_replicate member]
  decide

theorem Writes.inLine (writes : Writes PlainScalar value written) :
    ∀ character ∈ written, isLineCharacter character = true := by
  cases writes with
  | scalar means => exact List.forall_mem_cons.mpr ⟨by decide, means.simple.inLine⟩
  | nothing => exact fun _ => isLineCharacter_of_mem_blanks

theorem Lists.inLine (lists : Lists PlainScalar lines entries) (plain : PlainKeys entries) :
    ∀ line ∈ lines, ∀ character ∈ line, isLineCharacter character = true := by
  induction lists with
  | nil => exact nofun
  | gap gap _ ih =>
    refine List.forall_mem_cons.mpr ⟨?_, ih plain⟩
    cases gap with
    | blank => exact fun _ => isLineCharacter_of_mem_blanks
    | comment _ inLine =>
      exact List.forall_mem_append.mpr ⟨fun _ => isLineCharacter_of_mem_blanks,
        List.forall_mem_cons.mpr ⟨by decide, inLine⟩⟩
  | entry key writes _ ih =>
    refine List.forall_mem_cons.mpr ⟨?_, ih plain.tail⟩
    exact List.forall_mem_append.mpr
      ⟨plain.head.simple.inLine, List.forall_mem_cons.mpr ⟨by decide, writes.inLine⟩⟩

/-- A document has the characters of its lines, and line feeds. -/
theorem mem_documentText {marked : Bool}
    (inLine : ∀ line ∈ lines, ∀ character ∈ line, isLineCharacter character = true)
    {character : Char} (member : character ∈ documentText marked lines) :
    character = '\n' ∨ isLineCharacter character = true := by
  refine (Text.mem_intercalate member).imp List.mem_singleton.mp fun ⟨line, listed, inside⟩ => ?_
  cases marked with
  | false => exact inLine line listed character inside
  | true =>
    have dashes : ∀ character ∈ "---".toList, isLineCharacter character = true :=
      Text.forall_mem_of_all (by decide)
    rcases List.mem_cons.mp listed with rfl | listed
    · exact dashes character inside
    · exact inLine line listed character inside

/-- No document starts with a mark of byte order. -/
theorem head?_documentText {marked : Bool} (lists : Lists PlainScalar lines entries)
    (plain : PlainKeys entries) :
    ∀ character ∈ (documentText marked lines).head?, character.toNat ≠ 0xFEFF := by
  cases marked with
  | true =>
    rw [documentText, if_pos rfl, intercalate_cons]
    rintro _ ⟨⟩
    decide
  | false =>
    cases lists with
    | nil => exact nofun
    | @gap line lines _ gap =>
      rw [documentText, if_neg Bool.false_ne_true, intercalate_cons]
      cases gap with
      | blank blanks =>
        cases blanks with
        | zero =>
          cases lines with
          | nil => exact nofun
          | cons =>
            rintro _ ⟨⟩
            decide
        | succ =>
          rintro _ ⟨⟩
          decide
      | comment blanks =>
        cases blanks with
        | zero | succ =>
          rintro _ ⟨⟩
          decide
    | entry key =>
      have plainKey := plain.head
      obtain ⟨first, rest, shape, _⟩ := plainKey.simple.exists_cons
      rw [documentText, if_neg Bool.false_ne_true, intercalate_cons, shape]
      rintro _ ⟨⟩
      exact (plainKey.notMark first (shape ▸ rfl)).2.2

theorem unifyLineEnds_of_forall
    (inLine : ∀ character ∈ text, character = '\n' ∨ isLineCharacter character = true) :
    unifyLineEnds text = text := by
  induction text with
  | nil => rfl
  | cons first rest ih =>
    have ends : first ≠ '\r' ∧ first.toNat ≠ 0x85 := by
      rcases inLine first List.mem_cons_self with rfl | ordinary
      · decide
      · exact (isLineCharacter_iff.mp ordinary).2.2
    have kept : (first == '\r' || first.toNat == 0x85) = false := by
      rw [beq_false_of_ne ends.1, beq_false_of_ne ends.2]
      rfl
    rw [unifyLineEnds.eq_3 first rest fun _ same => absurd same ends.1, kept,
      ih fun character member => inLine character (List.mem_cons_of_mem first member)]
    rfl

theorem dropByteOrderMark_of_head? (other : ∀ character ∈ text.head?, character.toNat ≠ 0xFEFF) :
    dropByteOrderMark text = text := by
  cases text with
  | nil => rfl
  | cons first rest =>
    rw [dropByteOrderMark, beq_false_of_ne (other first rfl)]
    rfl

/-- A text of lines holds the document of their entries. -/
theorem ofText?_of_lists (lists : Lists PlainScalar lines entries) (plain : PlainKeys entries)
    (marked : Bool) :
    ofText? (String.ofList (documentText marked lines)) = some (listed entries) := by
  have inLine : ∀ character ∈ documentText marked lines,
      character = '\n' ∨ isLineCharacter character = true :=
    fun _ => mem_documentText (lists.inLine plain)
  have admitted : (documentText marked lines).all isAdmitted = true := by
    rw [List.all_eq_true]
    intro character member
    rcases inLine character member with rfl | ordinary
    · decide
    · exact (isLineCharacter_iff.mp ordinary).1
  rw [ofText?, String.toList_ofList, if_pos admitted, unifyLineEnds_of_forall inLine,
    dropByteOrderMark_of_head? (head?_documentText lists plain)]
  exact document_of_lists lists plain marked

/-- A file of lines holds the document of their entries. -/
theorem ofBytes?_of_lists (lists : Lists PlainScalar lines entries) (plain : PlainKeys entries)
    (marked : Bool) :
    ofBytes? (bytesOf (documentText marked lines)) = some (listed entries) := by
  have decoded : String.fromUTF8? ⟨(bytesOf (documentText marked lines)).toArray⟩ =
      some (String.ofList (documentText marked lines)) := by
    rw [bytesOf, Array.toArray_toList]
    exact dif_pos (String.ofList (documentText marked lines)).isValidUTF8
  rw [ofBytes?, decoded]
  exact ofText?_of_lists lists plain marked

/-- The reader of documents reads plain lines. -/
theorem readsPlainLines_parse : ReadsPlainLines parse where
  mapping marked lists plain _ some_entry := by
    rw [parse, ofBytes?_of_lists lists plain marked, listed, if_neg some_entry]
  nothing marked lists := by
    rw [parse, ofBytes?_of_lists lists nofun marked]
    rfl

end Chip8.Yaml
