/-
# What comes of a mapping

A caller's mapping has texts for keys, and any values. Either it keeps the limits and has no key
that is unknown, and then it is loaded: the configuration has a value for each of the seven settings
and for nothing else. Or the first check that fails is told, as a complaint. The order of the
entries has no part in this. And whoever loads a dictionary in place gets a new one, while the given
dictionary and the defaults stay what they are.
-/

import Chip8.Proofs.Raw.Simulation.Loader
import Chip8.Yaml.Document

namespace Chip8.Config

/-- The order of the entries of a mapping has no part in what comes of it. -/
theorem ofEntries_perm {entries other : Entries} (textKeys : entries.TextKeys)
    (single : (entries.map Prod.fst).Nodup) (same : entries.Perm other) :
    ofEntries other = ofEntries entries :=
  ofEntries_congr textKeys (fun entry member => textKeys entry (same.mem_iff.mpr member))
    (Entries.find?_perm single same) fun _ => (same.map Prod.fst).mem_iff.symm

/-- What comes of loading a mapping whose keys are texts. -/
theorem accepts_or_tells_first_failure (parser : Parser) (directory : Directory) {entries : Entries}
    (textKeys : entries.TextKeys) :
    let answer := load parser directory (.mapping entries)
    ((∃ config, answer = .ok config) ↔
      WithinLimits entries ∧ ∀ entry ∈ entries, ∃ key ∈ knownKeys, entry.1 = .text key) ∧
    (∀ config, answer = .ok config →
      config.toEntries.map Prod.fst = knownKeys.map .text ∧
      ∀ setting : Setting, ∃ value, config.toEntries.find? setting.key = some value ∧
        setting.Reads entries value) ∧
    (∀ failure, answer = .error failure ↔ FirstFailure entries Check.all failure) ∧
    (∀ failure, answer = .error failure → failure.isComplaint = true) ∧
    (∀ other, (entries.map Prod.fst).Nodup → entries.Perm other →
      load parser directory (.mapping other) = answer) ∧
    ∀ (dictionaries : List Entries) (defaults place : Nat),
      dictionaries[defaults]? = some (row Setting.default) → dictionaries[place]? = some entries →
      (∀ config, answer = .ok config → (InPlace.load defaults (some place)).run dictionaries =
        .ok dictionaries.length (dictionaries ++ [config.toEntries])) ∧
      ∀ failure, answer = .error failure →
        ∃ left, (InPlace.load defaults (some place)).run dictionaries =
          .error (.refused failure) (dictionaries ++ [left]) := by
  intro answer
  refine ⟨loads_iff textKeys, fun config loaded => ⟨rfl, fun setting => ?_⟩,
    fun _ => ofEntries_eq_error_iff textKeys, complains_ofEntries textKeys,
    fun _ single same => ofEntries_perm textKeys single same,
    fun _ _ place defaultsThere there => ?_⟩
  · refine ⟨config.value setting, find?_row config.value setting, ?_⟩
    rcases ofEntries_cases textKeys with ⟨failure, _, refused⟩ | ⟨read, readFrom, _, loaded'⟩
    · cases loaded.symm.trans refused
    · cases loaded.symm.trans loaded'
      exact readFrom setting
  · have lies : InPlace.Lies _ (some place) entries := there
    exact InPlace.run_load defaultsThere lies textKeys

/-- Six things are wrong here and the order of the entries is that of none of the checks. The seed
is told, since it is converted before the flags and all limits come later. -/
theorem accepts_or_tells_first_failure_at_six_faults :
    let entries : Entries :=
      [(.text "zeta", .null), (.text "load_font", .text "maybe"), (.text "tick_limit", .integer 0),
        (.text "rng_seed", .real (.infinite true)), (.text "pause_tick", .integer (-1)),
        (.text "Alpha", .list [])]
    entries.TextKeys ∧
    load Yaml.parse (fun _ => .missing) (.mapping entries) = .error (.badType .infinite) ∧
    load Yaml.parse (fun _ => .missing) (.mapping entries.reverse) = .error (.badType .infinite) ∧
    ∃ left, (InPlace.load 0 (some 1)).run [row Setting.default, entries] =
      .error (.refused (.badType .infinite)) [row Setting.default, entries, left] := by
  intro entries
  have textKeys : entries.TextKeys := by
    intro entry member
    simp only [entries, List.mem_cons, List.not_mem_nil, or_false] at member
    rcases member with rfl | rfl | rfl | rfl | rfl | rfl
    all_goals exact ⟨_, rfl⟩
  obtain ⟨_, _, refused_iff, _, any_order, in_place⟩ :=
    accepts_or_tells_first_failure Yaml.parse (fun _ => .missing) textKeys
  have limit : Setting.tickLimit.Reads entries (.integer 0) := ⟨0, .integer 0, rfl⟩
  have pause : Setting.pauseTick.Reads entries (.integer (-1)) := .inr ⟨-1, .integer (-1), rfl⟩
  have steps : Setting.stepsPerTimerTick.Reads entries (.integer 10) := rfl
  have first : FirstFailure entries Check.all (.badType .infinite) :=
    .later (Check.passes_converts limit) (.later (Check.passes_converts pause)
      (.later (Check.passes_converts steps) (.here (.converts rfl rfl))))
  have refused := (refused_iff _).mpr first
  have single : (entries.map Prod.fst).Nodup := by simp [entries]
  refine ⟨textKeys, refused, ?_, ?_⟩
  · exact (any_order _ single entries.reverse_perm.symm).trans refused
  · exact (in_place [row Setting.default, entries] 0 1 rfl rfl).2 _ refused

end Chip8.Config
