/-
# Reading plain lines

The reader of documents reads a document of plain lines as it is, in the order of its lines.

Reading goes over the gap in front of an entry, takes the key, the colon and the value, and stands
behind the value again. What it meets from there is told by `Reaches`: the next entry, at the start
of a line, or nothing. A value ends with its line, since a later line at column zero is not indented
deeply enough to go on with it, and neither does a comment go on with it.
-/

import Chip8.Proofs.Yaml.Notation

namespace Chip8.Yaml

open Text

/-! ## Characters of words -/

/-- Whether a character is part of a plain scalar wherever it stands. -/
def isSolid (character : Char) : Bool :=
  !(character == ' ' || character == '\t' || isBreak character || character == ':' ||
    character == '#')

theorem isSolid_iff {character : Char} : isSolid character = true ↔
    (character == ' ') = false ∧ (character == '\t') = false ∧ isBreak character = false ∧
      (character == ':') = false ∧ (character == '#') = false := by
  simp only [isSolid, Bool.not_eq_true', Bool.or_eq_false_iff, and_assoc]

theorem isLineCharacter_iff {character : Char} : isLineCharacter character = true ↔
    isAdmitted character = true ∧ isBreak character = false ∧ character ≠ '\r' ∧
      character.toNat ≠ 0x85 := by
  simp only [isLineCharacter, Bool.and_eq_true, Bool.not_eq_true', Bool.or_eq_false_iff,
    beq_eq_false_iff_ne, and_assoc]

/-- A text starts a plain scalar, and nothing else, whatever follows it. -/
structure Opens (text : List Char) : Prop where
  plain (rest : List Char) : startsPlain .block (text ++ rest) = true
  notEntry (rest : List Char) : startsEntry (text ++ rest) = false
  notQuoted (rest : List Char) : (text ++ rest).head?.bind QuoteStyle.ofMark? = none
  notFlow (parent : Int) (rest : List Char) (column : Nat) :
    inlineNode parent ⟨text ++ rest, column⟩ = scalar .block (parent + 1) ⟨text ++ rest, column⟩

/-- What a character of a word is at the start of a token. -/
structure IsPlainStart (first : Char) : Prop where
  notMinus : first ≠ '-'
  notMark : first ≠ '?' ∧ first ≠ ':'
  notBlank : ∀ rest, blankOrEnd (first :: rest) = false
  notIndicator : isIndicator first = false
  notQuote : QuoteStyle.ofMark? first = none
  notBracket : first ≠ '[' ∧ first ≠ '\x7b'

/-- Lines that come behind a line. -/
def following (lines : List (List Char)) : List Char :=
  lines.flatMap ('\n' :: ·)

theorem following_cons (line : List Char) (lines : List (List Char)) :
    following (line :: lines) = '\n' :: (line ++ following lines) :=
  rfl

variable {key : String} {value : Value} {line text written rest : List Char}
  {lines : List (List Char)} {entries : Entries}

/-! ## Simple scalars -/

theorem isPlainStart_of_mem {first : Char} (member : first ∈ wordCharacters) :
    IsPlainStart first where
  notMinus := (forall_mem_of_all (by decide) : ∀ first ∈ wordCharacters, first ≠ '-') first member
  notMark := (forall_mem_of_all (by decide) :
    ∀ first ∈ wordCharacters, first ≠ '?' ∧ first ≠ ':') first member
  notBlank _ := (forall_mem_of_all (by decide) :
    ∀ first ∈ wordCharacters, blankOrEnd [first] = false) first member
  notIndicator := (forall_mem_of_all (by decide) :
    ∀ first ∈ wordCharacters, isIndicator first = false) first member
  notQuote := (forall_mem_of_all (by decide) :
    ∀ first ∈ wordCharacters, QuoteStyle.ofMark? first = none) first member
  notBracket := (forall_mem_of_all (by decide) :
    ∀ first ∈ wordCharacters, first ≠ '[' ∧ first ≠ '\x7b') first member

theorem inlineNode_of_notBracket {first : Char} (notBracket : first ≠ '[' ∧ first ≠ '\x7b')
    (parent : Int) (rest : List Char) (column : Nat) :
    inlineNode parent ⟨first :: rest, column⟩ =
      scalar .block (parent + 1) ⟨first :: rest, column⟩ := by
  unfold inlineNode
  split
  · rename_i same
    cases same
    exact absurd rfl notBracket.1
  · rename_i same
    cases same
    exact absurd rfl notBracket.2
  · rfl

theorem opens_of_isPlainStart {first : Char} (start : IsPlainStart first) (more : List Char) :
    Opens (first :: more) where
  plain rest := by
    rw [List.cons_append, startsPlain]
    simp [start.notMinus, start.notMark, start.notBlank, start.notIndicator]
  notEntry rest := by
    unfold startsEntry
    split
    · rename_i same
      cases same
      exact absurd rfl start.notMinus
    · rfl
  notQuoted _ := start.notQuote
  notFlow parent rest column := inlineNode_of_notBracket start.notBracket parent _ column

theorem opens_minus {first : Char} (start : IsPlainStart first) (more : List Char) :
    Opens ('-' :: first :: more) where
  plain rest := congrArg not (start.notBlank (more ++ rest))
  notEntry rest := start.notBlank (more ++ rest)
  notQuoted _ := rfl
  notFlow _ _ _ := rfl

theorem IsWord.exists_cons (isWord : IsWord text) :
    ∃ first more, text = first :: more ∧ IsPlainStart first := by
  obtain ⟨first, more, shape⟩ := List.exists_cons_of_ne_nil isWord.nonempty
  refine ⟨first, more, shape, isPlainStart_of_mem (isWord.all first ?_)⟩
  rw [shape]
  exact List.mem_cons_self

theorem IsSimple.opens (simple : IsSimple text) : Opens text := by
  cases simple with
  | word isWord =>
    obtain ⟨first, more, rfl, start⟩ := isWord.exists_cons
    exact opens_of_isPlainStart start more
  | minus isWord =>
    obtain ⟨first, more, rfl, start⟩ := isWord.exists_cons
    exact opens_minus start more

theorem IsSimple.mem (simple : IsSimple text) :
    ∀ character ∈ text, character ∈ '-' :: wordCharacters := by
  cases simple with
  | word isWord =>
    exact fun character member => List.mem_cons_of_mem _ (isWord.all character member)
  | minus isWord =>
    exact List.forall_mem_cons.mpr ⟨List.mem_cons_self,
      fun character member => List.mem_cons_of_mem _ (isWord.all character member)⟩

theorem IsSimple.solid (simple : IsSimple text) :
    ∀ character ∈ text, isSolid character = true :=
  fun character member => (forall_mem_of_all (by decide) :
    ∀ character ∈ '-' :: wordCharacters, isSolid character = true) _ (simple.mem character member)

theorem IsSimple.inLine (simple : IsSimple text) :
    ∀ character ∈ text, isLineCharacter character = true :=
  fun character member => (forall_mem_of_all (by decide) :
    ∀ character ∈ '-' :: wordCharacters, isLineCharacter character = true) _
      (simple.mem character member)

theorem IsSimple.exists_cons (simple : IsSimple text) :
    ∃ first rest, text = first :: rest ∧ isSolid first = true := by
  have solid := simple.solid
  cases text with
  | nil => cases simple.opens.plain []
  | cons first rest => exact ⟨first, rest, rfl, solid first List.mem_cons_self⟩

/-! ## Keys -/

theorem PlainKey.simple (plain : PlainKey key) : IsSimple key.toList :=
  .word plain.isWord

/-- No mark of a document and no mark of byte order starts like a key. -/
theorem PlainKey.notMark (plain : PlainKey key) :
    ∀ character ∈ key.toList.head?, character ≠ '-' ∧ character ≠ '.' ∧
      character.toNat ≠ 0xFEFF :=
  fun character head => (forall_mem_of_all (by decide) : ∀ character ∈ wordCharacters,
    character ≠ '-' ∧ character ≠ '.' ∧ character.toNat ≠ 0xFEFF) character
      (plain.isWord.all character (List.mem_of_head? head))

theorem PlainKeys.head (plain : PlainKeys ((.text key, value) :: entries)) : PlainKey key := by
  obtain ⟨_, ⟨⟩, plainKey⟩ := plain _ List.mem_cons_self
  exact plainKey

theorem PlainKeys.tail {entry : Value × Value} (plain : PlainKeys (entry :: entries)) :
    PlainKeys entries :=
  fun other member => plain other (List.mem_cons_of_mem entry member)

/-! ## Gaps -/

theorem skipGapFrom_break (inComment crossed : Bool) (column : Nat) (rest : List Char) :
    skipGapFrom inComment crossed column ('\n' :: rest) = skipGapFrom false true 0 rest :=
  rfl

theorem skipGapFrom_blanks (crossed : Bool) (column blanks : Nat) (rest : List Char) :
    skipGapFrom false crossed column (List.replicate blanks ' ' ++ rest) =
      skipGapFrom false crossed (column + blanks) rest := by
  induction blanks generalizing column with
  | zero => rfl
  | succ blanks ih =>
    rw [List.replicate_succ, Nat.add_comm blanks, ← Nat.add_assoc]
    exact ih (column + 1)

theorem skipGapFrom_comment (crossed : Bool) (column : Nat)
    (inLine : ∀ character ∈ text, isBreak character = false) (rest : List Char) :
    skipGapFrom true crossed column (text ++ rest) =
      skipGapFrom true crossed (column + text.length) rest := by
  induction text generalizing column with
  | nil => rfl
  | cons first more ih =>
    have within := Bool.eq_false_iff.mp (inLine first List.mem_cons_self)
    rw [List.cons_append, skipGapFrom, if_neg within, if_pos rfl,
      ih _ fun character member => inLine character (List.mem_cons_of_mem first member),
      List.length_cons, Nat.add_assoc, Nat.add_comm 1]

/-- A gap is skipped, and a comment in it lasts to the end of its line. -/
theorem IsGap.skip (gap : IsGap line) (crossed : Bool) (column : Nat) (rest : List Char) :
    ∃ inComment column', skipGapFrom false crossed column (line ++ rest) =
      skipGapFrom inComment crossed column' rest := by
  cases gap with
  | blank blanks => exact ⟨false, _, skipGapFrom_blanks crossed column blanks rest⟩
  | @comment blanks text inLine =>
    refine ⟨true, column + blanks + 1 + text.length, ?_⟩
    rw [List.append_assoc, skipGapFrom_blanks]
    exact skipGapFrom_comment crossed _ (fun character member =>
      (isLineCharacter_iff.mp (inLine character member)).2.1) rest

/-- Nothing is skipped of a scalar. -/
theorem skipGapFrom_solid {first : Char} (solid : isSolid first = true) (crossed : Bool)
    (column : Nat) (rest : List Char) :
    skipGapFrom false crossed column (first :: rest) = (⟨first :: rest, column⟩, crossed) := by
  obtain ⟨blank, _, within, _, mark⟩ := isSolid_iff.mp solid
  simp only [skipGapFrom, within, blank, mark, Bool.false_eq_true, ↓reduceIte]

/-- What is met behind lines: an entry with its line, or nothing more. -/
inductive Reaches : Entries → Cursor × Bool → Prop
  | nothing {next : Cursor} (ended : next.rest = []) (crossed : Bool) : Reaches [] (next, crossed)
  | entry {key : String} {value : Value} {written : List Char} {lines : List (List Char)}
    {entries : Entries} (plain : PlainKey key) (writes : Writes PlainScalar value written)
    (more : Lists PlainScalar lines entries) :
    Reaches ((.text key, value) :: entries)
      (⟨key.toList ++ ':' :: (written ++ following lines), 0⟩, true)

theorem reaches_following (lists : Lists PlainScalar lines entries) (plain : PlainKeys entries)
    (inComment crossed : Bool) (column : Nat) :
    Reaches entries (skipGapFrom inComment crossed column (following lines)) := by
  induction lists generalizing inComment crossed column with
  | nil => exact .nothing rfl crossed
  | @gap line lines entries gap more ih =>
    obtain ⟨inComment', column', skipped⟩ := gap.skip true 0 (following lines)
    rw [following_cons, skipGapFrom_break, skipped]
    exact ih plain inComment' true column'
  | @entry key value written lines entries writes more ih =>
    have plainKey := plain.head
    obtain ⟨first, rest, shape, solid⟩ := plainKey.simple.exists_cons
    have met : skipGapFrom false true 0 (key.toList ++ ':' :: (written ++ following lines)) =
        (⟨key.toList ++ ':' :: (written ++ following lines), 0⟩, true) := by
      rw [shape]
      exact skipGapFrom_solid solid true 0 _
    rw [following_cons, skipGapFrom_break, List.append_assoc]
    exact met ▸ .entry plainKey writes more

/-! ## Plain scalars -/

/-- A plain scalar takes in a text of solid characters. -/
theorem plainLineFrom_solid {word : List Char}
    (solid : ∀ character ∈ word, isSolid character = true) (text : List Char) (column : Nat)
    (rest : List Char) :
    plainLineFrom .block 0 text ⟨word ++ rest, column⟩ column (word ++ rest) =
      plainLineFrom .block 0 (word.reverse ++ text) ⟨rest, column + word.length⟩
        (column + word.length) rest := by
  induction word generalizing text column with
  | nil => rfl
  | cons first more ih =>
    obtain ⟨blank, tab, line, colon, mark⟩ := isSolid_iff.mp (solid first List.mem_cons_self)
    have inside : stopsPlain .block first (more ++ rest) = false := by
      rw [stopsPlain, tab, line, colon]
      rfl
    rw [List.cons_append, plainLineFrom]
    simp only [blank, inside, mark, Bool.false_and, Bool.or_self, Bool.false_eq_true, ↓reduceIte]
    have later := ih fun character member => solid character (List.mem_cons_of_mem first member)
    refine (later _ _).trans ?_
    rw [List.reverse_cons, List.append_assoc, List.length_cons, Nat.add_assoc, Nat.add_comm 1]
    rfl

/-- A text stops a plain scalar at once. -/
def StopsPlain (rest : List Char) : Prop :=
  ∀ text last column, plainLineFrom .block 0 text last column rest = (text, last)

theorem plainLine_solid {word : List Char}
    (solid : ∀ character ∈ word, isSolid character = true) (stops : StopsPlain rest)
    (column : Nat) :
    plainLine .block ⟨word ++ rest, column⟩ = (word.reverse, ⟨rest, column + word.length⟩) := by
  rw [plainLine, plainLineFrom_solid solid, stops, List.append_nil]

theorem stopsPlain_following (lines : List (List Char)) : StopsPlain (following lines) := by
  cases lines with
  | nil => exact fun _ _ _ => rfl
  | cons => exact fun _ _ _ => rfl

theorem stopsPlain_colon {after : List Char} (ends : blankOrEnd after = true) :
    StopsPlain (':' :: after) := by
  intro text last column
  have stops : stopsPlain .block ':' after = true := by
    rw [stopsPlain, endsKey, ends]
    rfl
  rw [plainLineFrom, if_neg (by decide), stops]
  rfl

theorem skipBreaksFrom_blanks (column : Nat) (breaks : List Char) (blanks : Nat)
    (rest : List Char) :
    skipBreaksFrom (· == ' ') column breaks (List.replicate blanks ' ' ++ rest) =
      skipBreaksFrom (· == ' ') (column + blanks) breaks rest := by
  induction blanks generalizing column with
  | zero => rfl
  | succ blanks ih =>
    rw [List.replicate_succ, Nat.add_comm blanks, ← Nat.add_assoc]
    exact ih (column + 1)

/-- White space is skipped over the end of a line, unless a mark follows. -/
theorem skipBreaksFrom_break {column : Nat} {breaks folded : List Char} {next : Cursor}
    (found : skipBreaksFrom (· == ' ') column breaks ('\n' :: rest) = some (folded, next)) :
    skipBreaksFrom (· == ' ') 0 ('\n' :: breaks) rest = some (folded, next) := by
  rw [skipBreaksFrom, if_pos (by decide)] at found
  dsimp only at found
  split at found
  · cases found
  · exact found

/-- No line after it goes on with a plain scalar that has to be indented. -/
theorem continuesPlain_following (lists : Lists PlainScalar lines entries)
    (plain : PlainKeys entries) (column : Nat) (breaks : List Char) {folded : List Char}
    {next : Cursor}
    (found : skipBreaksFrom (· == ' ') column breaks (following lines) = some (folded, next)) :
    continuesPlain .block 1 next = false := by
  induction lists generalizing column breaks with
  | nil => cases found
  | gap gap _ ih =>
    rw [following_cons] at found
    have behind := skipBreaksFrom_break found
    cases gap with
    | blank blanks =>
      rw [skipBreaksFrom_blanks] at behind
      exact ih plain _ _ behind
    | comment blanks =>
      rw [List.append_assoc, skipBreaksFrom_blanks] at behind
      cases behind
      rfl
  | entry key =>
    rw [following_cons] at found
    have behind := skipBreaksFrom_break found
    have plainKey := plain.head
    obtain ⟨first, rest, shape, solid⟩ := plainKey.simple.exists_cons
    obtain ⟨blank, _, line, _⟩ := isSolid_iff.mp solid
    rw [shape, List.append_assoc, List.cons_append, skipBreaksFrom] at behind
    simp only [line, blank, Bool.false_eq_true, ↓reduceIte] at behind
    cases behind
    simp [continuesPlain]

/-- A scalar is read to the end of its line. -/
theorem scalar_of_means (means : PlainScalar value text)
    (lists : Lists PlainScalar lines entries) (plain : PlainKeys entries) (column : Nat) :
    scalar .block 1 ⟨text ++ following lines, column⟩ =
      some (value, ⟨following lines, column + text.length⟩) := by
  have line := plainLine_solid means.simple.solid (stopsPlain_following lines) column
  have read : Yaml.plain .block 1 ⟨text ++ following lines, column⟩ =
      (text, ⟨following lines, column + text.length⟩) := by
    rw [Yaml.plain, plainWithin, line]
    dsimp only
    cases found : skipBreaksFrom (· == ' ') (column + text.length) [] (following lines) with
    | none => simp
    | some pair =>
      obtain ⟨folded, next⟩ := pair
      have stops := continuesPlain_following lists plain _ _ found
      cases folded with
      | nil => simp
      | cons => simp [stops]
  rw [scalar]
  dsimp only
  rw [means.simple.opens.notQuoted]
  dsimp only
  rw [means.simple.opens.plain, if_pos rfl, read, means.resolve_eq]
  rfl

/-! ## Entries -/

/-- A key is read up to its colon. -/
theorem key?_of_plain (plain : PlainKey key) {after : List Char}
    (ends : blankOrEnd after = true) (column : Nat) :
    key? .block ⟨key.toList ++ ':' :: after, column⟩ =
      some (.text key, ⟨after, column + key.toList.length + 1⟩) := by
  have line := plainLine_solid plain.simple.solid (stopsPlain_colon ends) column
  have read : keyScalar? .block ⟨key.toList ++ ':' :: after, column⟩ =
      some (.text key, ⟨':' :: after, column + key.toList.length⟩) := by
    rw [keyScalar?]
    dsimp only
    rw [plain.simple.opens.notQuoted]
    dsimp only
    rw [plain.simple.opens.plain, if_pos rfl, line]
    dsimp only
    rw [List.reverse_reverse, plain.resolve_eq]
    rfl
  have near := Nat.add_le_add_left plain.length_le column
  rw [key?, read]
  have colon : (Cursor.mk (':' :: after) (column + key.toList.length)).skipBlanks =
      ⟨':' :: after, column + key.toList.length⟩ := rfl
  dsimp only
  rw [colon]
  simp [ends, near, Cursor.drop]

theorem blankOrEnd_following (lines : List (List Char)) : blankOrEnd (following lines) = true := by
  cases lines with
  | _ => rfl

theorem blankOrEnd_of_writes (writes : Writes PlainScalar value written)
    (lines : List (List Char)) :
    blankOrEnd (written ++ following lines) = true := by
  cases writes with
  | scalar => rfl
  | nothing blanks =>
    cases blanks with
    | zero => exact blankOrEnd_following lines
    | succ blanks => rfl

/-- Neither the start nor the end of a document is marked where a key stands. -/
theorem not_isMark_of_plain (plain : PlainKey key) (rest : List Char) (column : Nat) :
    (Cursor.mk (key.toList ++ rest) column).isStartMark = false ∧
      (Cursor.mk (key.toList ++ rest) column).isEndMark = false ∧
      (Cursor.mk (key.toList ++ rest) column).atEnd = false := by
  obtain ⟨first, more, shape, _⟩ := plain.simple.exists_cons
  obtain ⟨notStart, notEnd, _⟩ := plain.notMark first (shape ▸ rfl)
  have start : (Cursor.mk (key.toList ++ rest) column).isStartMark = false := by
    simp [Cursor.isStartMark, Cursor.isMark, shape, notStart]
  have stop : (Cursor.mk (key.toList ++ rest) column).isEndMark = false := by
    simp [Cursor.isEndMark, Cursor.isMark, shape, notEnd]
  refine ⟨start, stop, ?_⟩
  rw [Cursor.atEnd, start, stop, shape]
  rfl

/-- A scalar behind its key is read as a node. -/
theorem blockNode_of_means (means : PlainScalar value text)
    (lists : Lists PlainScalar lines entries) (plain : PlainKeys entries) (depth column : Nat) :
    blockNode (depth + 1) (0 : Nat) false false ⟨text ++ following lines, column⟩ =
      some (value, ⟨following lines, column + text.length⟩) := by
  rw [blockNode]
  dsimp only
  rw [means.simple.opens.notEntry, if_neg Bool.false_ne_true, if_neg Bool.false_ne_true]
  exact (means.simple.opens.notFlow 0 _ column).trans (scalar_of_means means lists plain column)

/-- The value of a key is read, and behind it stands the next entry. -/
theorem blockValue_of_writes (writes : Writes PlainScalar value written)
    (lists : Lists PlainScalar lines entries) (plain : PlainKeys entries) (depth column : Nat) :
    ∃ last, blockValue (depth + 2) 0 ⟨written ++ following lines, column⟩ = some (value, last) ∧
      Reaches entries last.skipGap := by
  cases writes with
  | @scalar _ text means =>
    refine ⟨⟨following lines, column + 1 + text.length⟩, ?_, reaches_following lists plain ..⟩
    obtain ⟨first, rest, shape, solid⟩ := means.simple.exists_cons
    have skipped : (Cursor.mk (' ' :: text ++ following lines) column).skipGap =
        (⟨text ++ following lines, column + 1⟩, false) := by
      rw [shape]
      exact skipGapFrom_solid solid false (column + 1) _
    have more : (Cursor.mk (text ++ following lines) (column + 1)).atEnd = false := by
      rw [shape]
      rfl
    rw [blockValue, skipped]
    dsimp only
    rw [more, if_neg Bool.false_ne_true, Bool.not_false, if_pos rfl]
    exact blockNode_of_means means lists plain depth (column + 1)
  | nothing blanks =>
    have reaches : Reaches entries
        (Cursor.mk (List.replicate blanks ' ' ++ following lines) column).skipGap := by
      rw [Cursor.skipGap, skipGapFrom_blanks]
      exact reaches_following lists plain false false (column + blanks)
    refine ⟨⟨List.replicate blanks ' ' ++ following lines, column⟩, ?_, reaches⟩
    rw [blockValue]
    cases met : (Cursor.mk (List.replicate blanks ' ' ++ following lines) column).skipGap with
    | mk next crossed =>
      rw [met] at reaches
      cases reaches with
      | nothing ended => simp [Cursor.atEnd, ended]
      | entry plainKey =>
        -- the next key stands in the column of this one, and is no dash
        dsimp only
        rw [(not_isMark_of_plain plainKey _ 0).2.2, plainKey.simple.opens.notEntry]
        rfl

/-- One entry of a mapping is read, and what comes next depends on what stands behind it. -/
theorem blockPairs_of_entry (plainKey : PlainKey key) (writes : Writes PlainScalar value written)
    (lists : Lists PlainScalar lines entries) (plain : PlainKeys entries) (depth : Nat)
    (before : Entries) :
    ∃ last : Cursor, Reaches entries last.skipGap ∧
      blockPairs (depth + 3) 0 before ⟨key.toList ++ ':' :: (written ++ following lines), 0⟩ =
        if last.skipGap.1.atEnd then
          some (.mapping ((Value.text key, value) :: before).reverse, last)
        else if last.skipGap.2 = false then none
        else if last.skipGap.1.column = 0 then
          blockPairs (depth + 2) 0 ((.text key, value) :: before) last.skipGap.1
        else none := by
  obtain ⟨last, read, reaches⟩ :=
    blockValue_of_writes writes lists plain depth (0 + key.toList.length + 1)
  refine ⟨last, reaches, ?_⟩
  rw [blockPairs, key?_of_plain plainKey (blankOrEnd_of_writes writes lines)]
  dsimp only
  rw [read]
  simp only [Bool.not_eq_true', beq_iff_eq, Nat.not_lt_zero, ↓reduceIte]

/-- A mapping is read from one of its keys on, to the end of the document. -/
theorem blockPairs_of_lists (plainKey : PlainKey key) (writes : Writes PlainScalar value written)
    (lists : Lists PlainScalar lines entries) (plain : PlainKeys entries) (depth : Nat)
    (before : Entries) :
    ∃ last, blockPairs (depth + entries.length + 3) 0 before
        ⟨key.toList ++ ':' :: (written ++ following lines), 0⟩ =
          some (.mapping (before.reverse ++ (.text key, value) :: entries), last) ∧
      last.skipGap.1.rest = [] := by
  induction entries generalizing key value written lines before with
  | nil =>
    obtain ⟨last, reaches, read⟩ := blockPairs_of_entry plainKey writes lists plain depth before
    refine ⟨last, ?_⟩
    cases met : last.skipGap with
    | mk next crossed =>
      rw [met] at reaches read
      cases reaches with
      | nothing ended =>
        refine ⟨read.trans ?_, ended⟩
        rw [Cursor.atEnd, ended, List.reverse_cons]
        rfl
  | cons entry entries ih =>
    obtain ⟨last, reaches, read⟩ :=
      blockPairs_of_entry plainKey writes lists plain (depth + entries.length + 1) before
    cases met : last.skipGap with
    | mk next crossed =>
      rw [met] at reaches read
      cases reaches with
      | entry plainKey' writes' more =>
        obtain ⟨last', read', ended⟩ :=
          ih plainKey' writes' more plain.tail ((.text key, value) :: before)
        refine ⟨last', (read.trans ?_).trans (read'.trans ?_), ended⟩
        · simp only [(not_isMark_of_plain plainKey' _ 0).2.2, Bool.false_eq_true, ↓reduceIte]
          rfl
        · rw [List.reverse_cons, List.append_assoc]
          rfl

end Chip8.Yaml
