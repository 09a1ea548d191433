/-
# Failures that are no complaints

Callers of `load` expect complaints and nothing else. There are two ways for another failure to get
out. One is a path that cannot be looked up. The other is a key that is no text, which documents can
have: while the unknown keys are being listed to complain about them, listing itself fails. All
other checks come before, so this is seen only of mappings that keep every limit.

What is loaded for a value is a mapping, but for the values that have none; `Supplies` tells which.
Which mapping a document holds is for the parser to say.
-/

import Chip8.Proofs.Config.Check
import Chip8.Yaml.Document

namespace Chip8.Config

variable {parser : Parser} {directory : Directory} {value : Value} {entries : Entries}

/-- What is loaded for a value are the settings of this mapping. -/
inductive Supplies (parser : Parser) (directory : Directory) : Value → Entries → Prop
  | nothing : Supplies parser directory .null []
  | mapping (entries : Entries) : Supplies parser directory (.mapping entries) entries
  | document {path : String} {bytes : List Byte} {entries : Entries}
    (there : directory path = .file bytes) (read : parser bytes = .ok (.mapping entries)) :
    Supplies parser directory (.text path) entries
  | emptyDocument {path : String} {bytes : List Byte} {document : Value}
    (there : directory path = .file bytes) (read : parser bytes = .ok document)
    (counts : document.isTrue = false) : Supplies parser directory (.text path) []

theorem load_of_document {path : String} {bytes : List Byte} {document : Value}
    (there : directory path = .file bytes) (read : parser bytes = .ok document) :
    load parser directory (.text path) = ofDocument path document := by
  simp only [load, ofFile, there, read]

theorem load_of_supplies (supplies : Supplies parser directory value entries) :
    load parser directory value = ofEntries entries := by
  cases supplies with
  | nothing | mapping => rfl
  | document there read =>
    rw [load_of_document there read, ofDocument]
    cases entries with
    | nil => rfl
    | cons => rfl
  | emptyDocument there read counts =>
    rw [load_of_document there read]
    exact if_neg (Bool.not_eq_true _ ▸ counts)

/-- A value supplies a mapping, or there is a complaint, or its path cannot be looked up. -/
theorem supplies_or_refused (parser : Parser) (directory : Directory) (value : Value) :
    (∃ entries, Supplies parser directory value entries) ∨
      (∃ failure, load parser directory value = .error failure ∧ failure.isComplaint = true) ∨
      ∃ path reason, value = .text path ∧ directory path = .unreachable reason := by
  cases value with
  | null => exact .inl ⟨[], .nothing⟩
  | mapping entries => exact .inl ⟨entries, .mapping entries⟩
  | boolean | integer | real | list | other =>
    exact .inr (.inl ⟨.unsupportedInput, rfl, rfl⟩)
  | text path =>
    cases there : directory path with
    | unreachable reason => exact .inr (.inr ⟨path, reason, rfl, there⟩)
    | missing =>
      refine .inr (.inl ⟨.fileNotFound path, ?_, rfl⟩)
      rw [load, ofFile, there]
    | directory =>
      refine .inr (.inl ⟨.unreadableFile path (Files.isADirectory path), ?_, rfl⟩)
      rw [load, ofFile, there]
    | file bytes =>
      cases read : parser bytes with
      | error reason =>
        refine .inr (.inl ⟨.unreadableFile path reason, ?_, rfl⟩)
        simp only [load, ofFile, there, read]
      | ok document =>
        cases counts : document.isTrue with
        | false => exact .inl ⟨[], .emptyDocument there read counts⟩
        | true =>
          cases document with
          | mapping entries => exact .inl ⟨entries, .document there read⟩
          | null | boolean | integer | real | text | list | other =>
            refine .inr (.inl ⟨.notAMapping path, ?_, rfl⟩)
            rw [load_of_document there read]
            exact if_pos counts

/-- Of a mapping, a failure that is no complaint says that it keeps the limits and has a key that is
no text. -/
theorem escapes_ofEntries_iff :
    (∃ failure, ofEntries entries = .error failure ∧ failure.isComplaint = false) ↔
      WithinLimits entries ∧ ∃ entry ∈ entries, entry.1.text? = none := by
  rcases afterChecks_ofEntries entries with ⟨failure, first, refused⟩ | ⟨_, config, reads, left⟩
  · obtain ⟨check, member, fails⟩ := first.fails
    refine iff_of_false ?_ fun ⟨within, _⟩ => within.passes check member failure fails
    rintro ⟨other, refused', escapes⟩
    cases refused.symm.trans refused'
    cases fails.isComplaint.symm.trans escapes
  · rw [left, and_iff_right (withinLimits_of_readFrom reads)]
    constructor
    · rintro ⟨failure, refused, escapes⟩
      by_contra all
      have textKeys : entries.TextKeys := by
        intro entry member
        cases isText : entry.1.text? with
        | none => exact absurd ⟨entry, member, isText⟩ all
        | some key => exact ⟨key, Value.eq_text_of_text? isText⟩
      cases checked : checkKeys entries with
      | ok =>
        rw [checked] at refused
        cases refused
      | error told =>
        rw [checked] at refused
        cases refused
        cases (complains_checkKeys textKeys _ checked).symm.trans escapes
    · rintro ⟨entry, member, noText⟩
      obtain ⟨failure, refused, escapes⟩ :=
        checkKeys_of_no_text (List.mem_map_of_mem member) noText
      rw [refused]
      exact ⟨failure, rfl, escapes⟩

/-- Whatever the parser makes of files, just these inputs fail with something else than a
complaint. -/
theorem load_escapes_iff (parser : Parser) (directory : Directory) (value : Value) :
    (∃ failure, load parser directory value = .error failure ∧ failure.isComplaint = false) ↔
      (∃ path reason, value = .text path ∧ directory path = .unreachable reason) ∨
      ∃ entries, Supplies parser directory value entries ∧ WithinLimits entries ∧
        ∃ entry ∈ entries, entry.1.text? = none := by
  constructor
  · rintro ⟨failure, refused, escapes⟩
    rcases supplies_or_refused parser directory value with
      ⟨entries, supplies⟩ | ⟨other, refused', complaint⟩ | unreachable
    · rw [load_of_supplies supplies] at refused
      exact .inr ⟨entries, supplies, escapes_ofEntries_iff.mp ⟨failure, refused, escapes⟩⟩
    · cases refused.symm.trans refused'
      cases complaint.symm.trans escapes
    · exact .inl unreachable
  · rintro (⟨path, reason, rfl, there⟩ | ⟨entries, supplies, escapes⟩)
    · refine ⟨.unreachablePath path reason, ?_, rfl⟩
      rw [load, ofFile, there]
    · rw [load_of_supplies supplies]
      exact escapes_ofEntries_iff.mpr escapes

/-- A document whose only key is a number. The key is unknown, but what is told is no complaint. -/
theorem load_escapes_at_number_for_key :
    let directory : Directory := fun path =>
      if path = "vm.yaml" then .file [0x35, 0x3A, 0x20, 0x31, 0x0A] else .missing
    load Yaml.parse directory (.text "vm.yaml") = .error (.keyNotText "int") ∧
      ¬ Complains (load Yaml.parse directory (.text "vm.yaml")) := by
  intro directory
  have refused : load Yaml.parse directory (.text "vm.yaml") = .error (.keyNotText "int") := by rfl
  refine ⟨refused, fun complains => ?_⟩
  cases complains _ refused

end Chip8.Config
