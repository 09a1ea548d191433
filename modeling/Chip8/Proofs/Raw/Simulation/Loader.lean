/-
# Loading in place comes to loading

A dictionary is loaded in place by one small change after another. Going along them, the dictionary
at the new place is always a row of the seven settings with the unknown keys behind it, and the
changes make the same checks in the same order as `load`. Since the first check that fails is all
that counts, both come to the same; and since only the new place is ever written, everything else
stays what it is.
-/

import Chip8.Proofs.Raw.Loader

namespace Chip8.Config

variable {values : Setting → Value} {foreign given : Entries}

/-! ## What lies at the new place -/

theorem find?_foreign (isForeign : Foreign foreign) (setting : Setting) :
    foreign.find? setting.key = none := by
  cases found : foreign.find? setting.key with
  | none => rfl
  | some value =>
    obtain ⟨key, unknown, same⟩ := isForeign _ (Entries.mem_of_find? found)
    cases same
    exact absurd (mem_knownKeys_iff.mpr ⟨setting, rfl⟩) unknown

/-- Behind a row nothing is found that a setting could be. -/
theorem find?_row_append (isForeign : Foreign foreign) (setting : Setting) :
    (row values ++ foreign).find? setting.key = some (values setting) := by
  rw [Entries.find?_append, find?_foreign isForeign, Option.none_or, find?_row]

namespace InPlace

variable {dictionaries old : List Entries} {entries : Entries} {place defaults : Nat}

theorem run_dictionary (there : dictionaries[place]? = some entries) :
    (dictionary place).run dictionaries = .ok entries dictionaries := by
  rw [dictionary, EStateM.run_bind, EStateM.run_get]
  simp only [there]
  rfl

theorem run_copy (there : dictionaries[place]? = some entries) :
    (copy place).run dictionaries = .ok dictionaries.length (dictionaries ++ [entries]) := by
  rw [copy, EStateM.run_bind, run_dictionary there]
  rfl

theorem new_there (old : List Entries) (entries : Entries) :
    (old ++ [entries])[old.length]? = some entries :=
  List.getElem?_concat_length

theorem old_there (there : old[place]? = some entries) (more : Entries) :
    (old ++ [more])[place]? = some entries := by
  obtain ⟨inside, _⟩ := List.getElem?_eq_some_iff.mp there
  rw [List.getElem?_append_left inside, there]

theorem run_put (old : List Entries) (entries : Entries) (key value : Value) :
    (put old.length key value).run (old ++ [entries]) =
      .ok () (old ++ [entries.put key value]) := by
  rw [put, EStateM.run_bind, run_dictionary (new_there old entries)]
  simp only [EStateM.run_modify, List.set_append_right, Nat.le_refl, Nat.sub_self,
    List.set_cons_zero]

theorem run_update (old : List Entries) (entries given : Entries) :
    (update old.length given).run (old ++ [entries]) = .ok () (old ++ [entries.update given]) := by
  induction given generalizing entries with
  | nil => rfl
  | cons entry rest ih =>
    rw [update, EStateM.run_bind, run_put]
    exact ih _

theorem run_valueAt {key : String} {value : Value} (there : dictionaries[place]? = some entries)
    (found : entries.find? key = some value) :
    (valueAt place key).run dictionaries = .ok value dictionaries := by
  rw [valueAt, EStateM.run_bind, run_dictionary there]
  simp only [found]
  rfl

/-- The answer is this failure, and of all dictionaries only the new one may have changed. -/
def Leaves {α : Type} (old : List Entries) (result : EStateM.Result RawFailure (List Entries) α)
    (failure : Failure) : Prop :=
  ∃ left, result = .error (.refused failure) (old ++ [left])

/-- Checks that one action makes come before those of the next. -/
theorem afterChecks_bind {α β : Type} {checks more : List Check} {first : InPlace α}
    {next : α → InPlace β} {rest : EStateM.Result RawFailure (List Entries) β → Prop}
    (after : AfterChecks (Leaves old) given checks (fun result => ∃ value reached,
      result = .ok value reached ∧
        AfterChecks (Leaves old) given more rest ((next value).run reached))
      (first.run dictionaries)) :
    AfterChecks (Leaves old) given (checks ++ more) rest ((first >>= next).run dictionaries) := by
  rw [EStateM.run_bind]
  rcases after with ⟨failure, first, left, ran⟩ | ⟨pass, value, reached, ran, last⟩
  · rw [ran]
    exact .inl ⟨failure, first.append_left more, left, rfl⟩
  · rw [ran]
    rcases last with ⟨failure, first, left⟩ | ⟨pass', correct⟩
    · exact .inl ⟨failure, .append_right pass first, left⟩
    · exact .inr ⟨List.forall_mem_append.mpr ⟨pass, pass'⟩, correct⟩

section New

variable (defaultsThere : old[defaults]? = some (row Setting.default)) (isForeign : Foreign foreign)

include defaultsThere

theorem run_absent (more : Entries) (setting : Setting) :
    (absent defaults setting).run (old ++ [more]) = .ok setting.default (old ++ [more]) := by
  have there := old_there defaultsThere more
  cases setting with
  | pauseTick | seed => rfl
  | tickLimit => exact run_valueAt there (find?_row _ .tickLimit)
  | stepsPerTimerTick => exact run_valueAt there (find?_row _ .stepsPerTimerTick)
  | shiftFlag => exact run_valueAt there (find?_row _ .shiftFlag)
  | loadFont => exact run_valueAt there (find?_row _ .loadFont)
  | quiet => exact run_valueAt there (find?_row _ .quiet)

include isForeign

/-- A setting is converted where it lies, and nothing else changes. -/
theorem run_convert (setting : Setting) :
    (convert defaults old.length setting).run (old ++ [row values ++ foreign]) =
      match setting.convert (values setting) with
      | .ok value =>
        .ok () (old ++ [row (Function.update values setting value) ++ foreign])
      | .error fault => .error (.refused (.badType fault)) (old ++ [row values ++ foreign]) := by
  rw [convert, EStateM.run_bind, run_absent defaultsThere]
  simp only [EStateM.run_bind, run_dictionary (new_there old _), find?_row_append isForeign,
    Option.getD_some]
  cases setting.convert (values setting) with
  | error fault => rfl
  | ok value =>
    dsimp only
    rw [run_put, put_row]

/-- Settings are converted one after another until one fails. -/
theorem afterChecks_convertAll (order : List Setting) (single : order.Nodup)
    (unconverted : ∀ setting ∈ order, values setting = overlay Setting.default given setting) :
    AfterChecks (Leaves old) given (order.map .converts)
      (fun result => ∃ converted : Setting → Value,
        (∀ setting ∈ order, setting.Reads given (converted setting)) ∧
        (∀ setting ∉ order, converted setting = values setting) ∧
        result = .ok () (old ++ [row converted ++ foreign]))
      ((convertAll defaults old.length order).run (old ++ [row values ++ foreign])) := by
  -- the settings that are still to come lie there as they were given or by default
  induction order generalizing values with
  | nil => exact .done ⟨values, List.forall_mem_nil _, fun _ _ => rfl, rfl⟩
  | cons setting rest ih =>
    obtain ⟨apart, single'⟩ := List.nodup_cons.mp single
    rw [convertAll, EStateM.run_bind, run_convert defaultsThere isForeign]
    rw [unconverted setting List.mem_cons_self]
    cases converted : setting.convert (overlay Setting.default given setting) with
    | error fault => exact .here (Check.fails_converts converted) ⟨_, rfl⟩
    | ok value =>
      have reads : setting.Reads given value := Setting.reads_iff.mpr converted
      have other_ne {other : Setting} (member : other ∈ rest) : other ≠ setting := by
        rintro rfl
        exact apart member
      have unconverted' : ∀ other ∈ rest, Function.update values setting value other =
          overlay Setting.default given other := by
        intro other member
        rw [Function.update_of_ne (other_ne member)]
        exact unconverted other (List.mem_cons_of_mem setting member)
      refine .later (Check.passes_converts reads) ((ih single' unconverted').imp ?_)
      rintro ⟨all, readAll, kept, ran⟩
      refine ⟨all, List.forall_mem_cons.mpr ⟨?_, readAll⟩, fun other outside => ?_, ran⟩
      · rw [kept setting apart, Function.update_self]
        exact reads
      · rw [kept other (List.not_mem_of_not_mem_cons outside),
          Function.update_of_ne (List.ne_of_not_mem_cons outside)]

end New

section Limits

variable (isForeign : Foreign foreign)

include isForeign

theorem run_checkPositive {setting : Setting} {number : Int} (failure : Failure)
    (whole : values setting = .integer number) :
    (checkPositive old.length setting.key failure).run (old ++ [row values ++ foreign]) =
      if number ≤ 0 then .error (.refused failure) (old ++ [row values ++ foreign])
      else .ok () (old ++ [row values ++ foreign]) := by
  rw [checkPositive, EStateM.run_bind,
    run_valueAt (new_there old _) (find?_row_append isForeign setting), whole]
  dsimp only
  split
  · rfl
  · rfl

theorem afterChecks_checkPositive {setting : Setting} {number : Int} {check : Check}
    {failure : Failure} (whole : values setting = .integer number)
    (fails : number ≤ 0 → check.Fails given failure) (passes : 0 < number → check.Passes given) :
    AfterChecks (Leaves old) given [check]
      (fun result => result = .ok () (old ++ [row values ++ foreign]))
      ((checkPositive old.length setting.key failure).run (old ++ [row values ++ foreign])) := by
  rw [run_checkPositive isForeign failure whole]
  split
  · exact .here (fails ‹_›) ⟨_, rfl⟩
  · exact .later (passes (Int.not_le.mp ‹_›)) (.done rfl)

theorem afterChecks_checkPauseTick (reads : Setting.pauseTick.Reads given (values .pauseTick)) :
    AfterChecks (Leaves old) given [.pauseTickNonneg]
      (fun result => result = .ok () (old ++ [row values ++ foreign]))
      ((checkPauseTick old.length).run (old ++ [row values ++ foreign])) := by
  have found : (valueAt old.length "pause_tick").run (old ++ [row values ++ foreign]) = _ :=
    run_valueAt (new_there old _) (find?_row_append isForeign .pauseTick)
  rw [checkPauseTick, EStateM.run_bind, found]
  rcases reads.null_or_integer with nothing | ⟨tick, whole⟩
  · rw [nothing] at reads ⊢
    exact .later (Check.passes_pauseTickNonneg reads nofun) (.done rfl)
  · rw [whole] at reads ⊢
    dsimp only
    by_cases low : tick < 0
    · rw [if_pos low]
      exact .here (.pauseTick reads low) ⟨_, rfl⟩
    · rw [if_neg low]
      refine .later (Check.passes_pauseTickNonneg reads ?_) (.done rfl)
      rintro _ ⟨⟩
      exact Int.not_lt.mp low

end Limits

theorem textKeys_row_append (values : Setting → Value) (isForeign : Foreign foreign) :
    (row values ++ foreign).TextKeys := by
  intro entry member
  rcases List.mem_append.mp member with inRow | behind
  · obtain ⟨setting, _, rfl⟩ := List.mem_map.mp inRow
    exact ⟨setting.key, rfl⟩
  · obtain ⟨key, _, same⟩ := isForeign entry behind
    exact ⟨key, same⟩

theorem run_checkKeys (defaultsThere : old[defaults]? = some (row Setting.default))
    (entries : Entries) :
    (checkKeys defaults old.length).run (old ++ [entries]) =
      match Config.checkKeys entries with
      | .ok _ => .ok () (old ++ [entries])
      | .error failure => .error (.refused failure) (old ++ [entries]) := by
  have known : (row Setting.default).filterMap (fun entry => entry.1.text?) = knownKeys := rfl
  rw [checkKeys, Config.checkKeys, EStateM.run_bind,
    run_dictionary (old_there defaultsThere entries)]
  simp only [EStateM.run_bind, run_dictionary (new_there old entries), known]
  cases UnknownKeys.ofEntries knownKeys entries with
  | _ => rfl

/-- The keys that are unknown are those behind the row, and they are those that were given. -/
theorem afterChecks_checkKeys (defaultsThere : old[defaults]? = some (row Setting.default))
    (isForeign : Foreign foreign) (same : ∀ key ∉ knownKeys,
      .text key ∈ foreign.map Prod.fst ↔ .text key ∈ given.map Prod.fst) :
    AfterChecks (Leaves old) given [.keysKnown]
      (fun result => result = .ok () (old ++ [row values]))
      ((checkKeys defaults old.length).run (old ++ [row values ++ foreign])) := by
  obtain ⟨keys, lists, checked⟩ := checkKeys_of_textKeys (textKeys_row_append values isForeign)
  have lists_given : ListsUnknown given keys := by
    refine ⟨lists.ascending, fun key => (lists.mem_iff key).trans ?_⟩
    refine and_congr_left fun unknown => ?_
    have outside : .text key ∉ (row values).map Prod.fst := by
      rw [row, List.map_map, List.mem_map]
      rintro ⟨setting, _, equal⟩
      exact unknown (mem_knownKeys_iff.mpr ⟨setting, Value.text.inj equal⟩)
    rw [List.map_append, List.mem_append, or_iff_right outside, same key unknown]
  rw [run_checkKeys defaultsThere, checked]
  by_cases none_left : keys = []
  · subst none_left
    have nothing : foreign = [] := by
      refine List.eq_nil_iff_forall_not_mem.mpr fun entry member => ?_
      obtain ⟨key, unknown, isKey⟩ := isForeign entry member
      have there : .text key ∈ (row values ++ foreign).map Prod.fst :=
        isKey ▸ List.mem_map_of_mem (List.mem_append_right _ member)
      exact List.not_mem_nil ((lists.mem_iff key).mpr ⟨there, unknown⟩)
    subst nothing
    rw [if_pos rfl, List.append_nil]
    exact .later (Check.passes_keysKnown lists_given) (.done rfl)
  · rw [if_neg none_left]
    exact .here (.keys lists_given none_left) ⟨_, rfl⟩

/-- What is given lies at a place, or nothing is given. -/
def Lies (dictionaries : List Entries) (given : Option Nat) (entries : Entries) : Prop :=
  match given with
  | some place => dictionaries[place]? = some entries
  | none => entries = []

theorem run_updateFrom {source : Option Nat} (lies : Lies old source given) (entries : Entries) :
    (updateFrom old.length source).run (old ++ [entries]) =
      .ok () (old ++ [entries.update given]) := by
  cases source with
  | none =>
    cases lies
    rfl
  | some place =>
    rw [updateFrom, EStateM.run_bind, run_dictionary (old_there lies entries)]
    exact run_update old entries given

theorem afterChecks_load {source : Option Nat}
    (defaultsThere : old[defaults]? = some (row Setting.default)) (lies : Lies old source given)
    (textKeys : given.TextKeys) :
    AfterChecks (Leaves old) given Check.all
      (fun result => ∃ values : Setting → Value,
        (∀ setting : Setting, setting.Reads given (values setting)) ∧
        result = .ok old.length (old ++ [row values])) ((load defaults source).run old) := by
  have nothing : Foreign [] := List.forall_mem_nil _
  obtain ⟨foreign, isForeign, updated, keys⟩ := update_row textKeys Setting.default nothing
  have same : ∀ key ∉ knownKeys,
      (.text key ∈ foreign.map Prod.fst ↔ .text key ∈ given.map Prod.fst) := by
    simpa using keys
  rw [List.append_nil] at updated
  rw [load, EStateM.run_bind, run_copy defaultsThere]
  dsimp only
  rw [EStateM.run_bind, run_updateFrom lies, updated]
  -- the checks as the actions that make them
  show AfterChecks _ _ ([Setting.tickLimit, .pauseTick, .stepsPerTimerTick, .seed, .shiftFlag,
    .loadFont, .quiet].map .converts ++ ([.tickLimitPositive] ++ ([.pauseTickNonneg] ++
      ([.stepsPerTimerTickPositive] ++ ([.keysKnown] ++ []))))) _ _
  refine afterChecks_bind ((afterChecks_convertAll defaultsThere isForeign _ (by decide)
    fun _ _ => rfl).imp ?_)
  rintro ⟨values, readsListed, _, ran⟩
  have reads (setting : Setting) : setting.Reads given (values setting) :=
    readsListed setting (by cases setting with | _ => decide)
  obtain ⟨limit, limitWhole⟩ := (reads .tickLimit).exists_integer (.inl rfl)
  obtain ⟨steps, stepsWhole⟩ := (reads .stepsPerTimerTick).exists_integer (.inr rfl)
  have readsLimit := reads .tickLimit
  have readsSteps := reads .stepsPerTimerTick
  rw [limitWhole] at readsLimit
  rw [stepsWhole] at readsSteps
  refine ⟨(), _, ran, afterChecks_bind ((afterChecks_checkPositive isForeign limitWhole
    (.tickLimit readsLimit) (Check.passes_tickLimitPositive readsLimit)).imp fun ran => ?_)⟩
  refine ⟨(), _, ran, afterChecks_bind ((afterChecks_checkPauseTick isForeign
    (reads .pauseTick)).imp fun ran => ?_)⟩
  refine ⟨(), _, ran, afterChecks_bind ((afterChecks_checkPositive isForeign stepsWhole
    (.stepsPerTimerTick readsSteps)
    (Check.passes_stepsPerTimerTickPositive readsSteps)).imp fun ran => ?_)⟩
  refine ⟨(), _, ran, afterChecks_bind ((afterChecks_checkKeys defaultsThere isForeign
    same).imp fun ran => ?_)⟩
  exact ⟨(), _, ran, .done ⟨values, reads, rfl⟩⟩

/-- Loading in place comes to what loading comes to. A configuration is written out to a new place,
and whether or not there is one, all dictionaries that were there stay what they are. -/
theorem run_load {source : Option Nat} (defaultsThere : old[defaults]? = some (row Setting.default))
    (lies : Lies old source given) (textKeys : given.TextKeys) :
    (∀ config, ofEntries given = .ok config →
      (load defaults source).run old = .ok old.length (old ++ [config.toEntries])) ∧
    ∀ failure, ofEntries given = .error failure →
      Leaves old ((load defaults source).run old) failure := by
  have checked := afterChecks_load defaultsThere lies textKeys
  rcases ofEntries_cases textKeys with ⟨failure, first, refused⟩ | ⟨config, readFrom, pass, loaded⟩
  · refine ⟨fun _ loaded => ?_, fun _ also => ?_⟩
    · cases refused.symm.trans loaded
    · cases refused.symm.trans also
      rcases checked with ⟨other, first', left⟩ | ⟨pass, _⟩
      · rwa [first.unique first']
      · obtain ⟨check, member, fails⟩ := first.fails
        exact absurd fails (pass check member failure)
  · refine ⟨fun _ also => ?_, fun _ refused => ?_⟩
    · cases loaded.symm.trans also
      rcases checked with ⟨failure, first, _⟩ | ⟨_, values, reads, ran⟩
      · obtain ⟨check, member, fails⟩ := first.fails
        exact absurd fails (pass check member failure)
      · have same : values = config.value :=
          funext fun setting => (reads setting).unique (readFrom setting)
        rw [ran, same]
        rfl
    · cases loaded.symm.trans refused

end InPlace

end Chip8.Config
