/-
# Configurations in files

A configuration can be saved in a file: a line for each entry, in any order, with integers in
decimals, truth values as words, and nothing as a word or left out. Blank lines and comments may
stand between the lines, and a mark in front of them. Whoever loads that file gets what loading the
entries comes to, a configuration or a complaint. Saving loses nothing, so a configuration that was
loaded, written out and saved is loaded again as it is.

All this holds of any parser that reads plain lines. Blank lines hold spaces and nothing else, and
comments only what a document may hold: a line with a tab in it is blank to the eye, but no parser
of the notation passes over it.
-/

import Chip8.Proofs.Config.Escapes
import Chip8.Proofs.Config.Outcome
import Chip8.Proofs.Yaml.Documents

namespace Chip8.Config

/-! ## Saving -/

/-- A file has these entries for its lines, in some order. -/
def Saves (directory : Directory) (path : String) (entries : Entries) : Prop :=
  ∃ (written : Entries) (lines : List (List Char)) (marked : Bool),
    entries.Perm written ∧ Yaml.Lists Yaml.WritesScalar lines written ∧
      directory path = .file (Yaml.bytesOf (Yaml.documentText marked lines))

/-- All keys are keys of settings. -/
def KnownKeys (entries : Entries) : Prop :=
  ∀ entry ∈ entries, ∃ key ∈ knownKeys, entry.1 = .text key

/-- A value can be saved: it is an integer with few enough digits, a truth value, or nothing. -/
inductive CanBeSaved : Value → Prop
  | integer {number : Int} (few : (Nat.toDigits 10 number.natAbs).length ≤ Text.digitLimit) :
    CanBeSaved (.integer number)
  | boolean (flag : Bool) : CanBeSaved (.boolean flag)
  | null : CanBeSaved .null

theorem exists_writes {value : Value} (savable : CanBeSaved value) :
    ∃ written, Yaml.Writes Yaml.WritesScalar value written := by
  cases savable with
  | integer few => exact ⟨_, .scalar (.integer few)⟩
  | boolean flag => exact ⟨_, .scalar (.boolean flag)⟩
  | null => exact ⟨_, .scalar .null⟩

/-- Entries that can be saved have lines. -/
theorem exists_lists {entries : Entries}
    (savable : ∀ entry ∈ entries, ∃ key, entry.1 = .text key ∧ CanBeSaved entry.2) :
    ∃ lines, Yaml.Lists Yaml.WritesScalar lines entries := by
  induction entries with
  | nil => exact ⟨[], .nil⟩
  | cons entry entries ih =>
    obtain ⟨lines, lists⟩ := ih fun entry member => savable entry (List.mem_cons_of_mem _ member)
    obtain ⟨key, value⟩ := entry
    obtain ⟨key, ⟨⟩, one⟩ := savable _ List.mem_cons_self
    obtain ⟨written, writes⟩ := exists_writes one
    exact ⟨_, .entry key writes lists⟩

/-! ## Loading what was saved -/

/-- The keys of the settings are plain scalars. -/
theorem plainKey_of_known {key : String} (known : key ∈ knownKeys) : Yaml.PlainKey key := by
  simp only [knownKeys, List.mem_cons, List.not_mem_nil, or_false] at known
  rcases known with rfl | rfl | rfl | rfl | rfl | rfl | rfl
  all_goals exact ⟨⟨by decide, Text.forall_mem_of_all (by decide)⟩, rfl, by decide⟩

theorem KnownKeys.plain {entries : Entries} (known : KnownKeys entries) :
    Yaml.PlainKeys entries := by
  intro entry member
  obtain ⟨key, isKnown, same⟩ := known entry member
  exact ⟨key, same, plainKey_of_known isKnown⟩

theorem KnownKeys.textKeys {entries : Entries} (known : KnownKeys entries) : entries.TextKeys := by
  intro entry member
  obtain ⟨key, _, same⟩ := known entry member
  exact ⟨key, same⟩

variable {parser : Parser} {directory : Directory} {path : String} {entries : Entries}

section Reads

variable (reads : Yaml.ReadsPlainLines parser) (saves : Saves directory path entries)
  (known : KnownKeys entries) (single : (entries.map Prod.fst).Nodup)

include reads saves known single

/-- A file supplies the entries that were saved in it, in the order of its lines. -/
theorem exists_supplies_of_saves :
    ∃ written, entries.Perm written ∧ Supplies parser directory (.text path) written := by
  obtain ⟨written, lines, marked, order, spelled, there⟩ := saves
  have plain : Yaml.PlainKeys written := fun entry member =>
    known.plain entry (order.mem_iff.mpr member)
  have lists := spelled.mono fun _ _ writes => writes.plainScalar
  refine ⟨written, order, ?_⟩
  cases written with
  | nil => exact .emptyDocument there (reads.nothing marked lists) rfl
  | cons entry more =>
    have single_too := (order.map Prod.fst).nodup_iff.mp single
    exact .document there
      (reads.mapping marked lists plain single_too (List.cons_ne_nil entry more))

/-- Entries that were saved are loaded like the entries themselves. -/
theorem load_of_saves :
    load parser directory (.text path) = load parser directory (.mapping entries) := by
  obtain ⟨written, order, supplies⟩ := exists_supplies_of_saves reads saves known single
  rw [load_of_supplies supplies]
  exact ofEntries_perm known.textKeys single order

end Reads

theorem knownKeys_toEntries (config : Config) : KnownKeys config.toEntries := by
  intro entry member
  have keyed : entry.1 ∈ knownKeys.map .text := List.mem_map_of_mem member
  obtain ⟨key, isKnown, same⟩ := List.mem_map.mp keyed
  exact ⟨key, isKnown, same.symm⟩

theorem single_toEntries (config : Config) : (config.toEntries.map Prod.fst).Nodup := by
  show (knownKeys.map Value.text).Nodup
  simp [knownKeys]

/-- To a parser that reads plain lines, a saved mapping over the known keys is loaded like the
mapping, with a configuration or the same complaint. A file with nothing in it has the defaults, a
configuration that was saved is loaded as it is, and whatever can be saved has a file.

Between the lines of a saved mapping there are only blanks, or comments of characters that a
document may hold. A tab is no such blank. -/
theorem load_saved {parser : Parser} (reads : Yaml.ReadsPlainLines parser) (directory : Directory)
    (path : String) :
    (∀ entries, Saves directory path entries → KnownKeys entries → (entries.map Prod.fst).Nodup →
      load parser directory (.text path) = load parser directory (.mapping entries) ∧
      Complains (load parser directory (.text path))) ∧
    (directory path = .file [] → load parser directory (.text path) = .ok {}) ∧
    (∀ config : Config, Saves directory path config.toEntries →
      load parser directory (.text path) = .ok config) ∧
    ∀ entries : Entries, (∀ entry ∈ entries, ∃ key, entry.1 = .text key ∧ CanBeSaved entry.2) →
      ∃ bytes, ∀ other : Directory, other path = .file bytes → Saves other path entries := by
  refine ⟨fun entries saves known single => ?_, fun empty => ?_, fun config saves => ?_,
    fun entries savable => ?_⟩
  · have same := load_of_saves reads saves known single
    rw [same]
    exact ⟨rfl, complains_ofEntries known.textKeys⟩
  · have saves : Saves directory path [] := ⟨[], [], false, .refl [], .nil, empty⟩
    exact load_of_saves reads saves nofun .nil
  · rw [load_of_saves reads saves (knownKeys_toEntries config) (single_toEntries config)]
    exact ofEntries_toEntries config
  · obtain ⟨lines, lists⟩ := exists_lists savable
    exact ⟨_, fun other there => ⟨entries, lines, false, .refl entries, lists, there⟩⟩

/-- A file with a mark, a comment, a blank line, and a seed that is left out. The pause below zero
is refused, as it is in a mapping. -/
theorem load_saved_at_negative_pause :
    let text := "---\n # slow\nrng_seed:\n\ntick_limit: 500\npause_tick: -3\n"
    let directory : Directory := fun _ => .file (Yaml.bytesOf text.toList)
    let entries : Entries :=
      [(.text "pause_tick", .integer (-3)), (.text "tick_limit", .integer 500),
        (.text "rng_seed", .null)]
    Yaml.ReadsPlainLines Yaml.parse ∧ Saves directory "c.yaml" entries ∧
      load Yaml.parse directory (.text "c.yaml") = .error .pauseTickNegative := by
  intro text directory entries
  let lines : List (List Char) := [" # slow".toList, "rng_seed:".toList, [],
    "tick_limit: 500".toList, "pause_tick: -3".toList, []]
  have lists : Yaml.Lists Yaml.WritesScalar lines entries.reverse :=
    .gap (@Yaml.IsGap.comment 1 " slow".toList (Text.forall_mem_of_all (by decide)))
      (.entry "rng_seed" (.nothing 0) (.gap (.blank 0)
        (.entry "tick_limit" (.scalar (@Yaml.WritesScalar.integer 500 (by decide)))
          (.entry "pause_tick" (.scalar (@Yaml.WritesScalar.integer (-3) (by decide)))
            (.gap (.blank 0) .nil)))))
  have written : Yaml.documentText true lines = text.toList := by decide
  have saves : Saves directory "c.yaml" entries :=
    ⟨entries.reverse, lines, true, entries.reverse_perm.symm, lists, by rw [written]⟩
  have known : KnownKeys entries := by
    intro entry member
    simp only [entries, List.mem_cons, List.not_mem_nil, or_false] at member
    rcases member with rfl | rfl | rfl
    all_goals exact ⟨_, by decide, rfl⟩
  have single : (entries.map Prod.fst).Nodup := by simp [entries]
  have reads := Yaml.readsPlainLines_parse
  have same := ((load_saved reads directory "c.yaml").1 entries saves known single).1
  exact ⟨reads, saves, same.trans rfl⟩

/-- A blank line with a tab in it is no gap. The file cannot be read, where the mapping is
loaded. -/
theorem load_refuses_tab_in_blank_line :
    let text := "tick_limit: 5\n\t\n"
    let directory : Directory := fun _ => .file (Yaml.bytesOf text.toList)
    let entries : Entries := [(.text "tick_limit", .integer 5)]
    (∃ reason, Yaml.parse (Yaml.bytesOf text.toList) = .error reason ∧
      load Yaml.parse directory (.text "vm.yaml") = .error (.unreadableFile "vm.yaml" reason)) ∧
      load Yaml.parse directory (.mapping entries) = .ok { tickLimit := 5 } := by
  intro text directory entries
  have unread : Yaml.ofBytes? (Yaml.bytesOf text.toList) = none :=
    Option.isNone_iff_eq_none.mp (by decide +kernel)
  obtain ⟨reason, refused⟩ : ∃ reason, Yaml.parse (Yaml.bytesOf text.toList) = .error reason :=
    ⟨_, by rw [Yaml.parse, unread]⟩
  refine ⟨⟨reason, refused, ?_⟩, rfl⟩
  simp only [load, ofFile, directory, refused]

end Chip8.Config
