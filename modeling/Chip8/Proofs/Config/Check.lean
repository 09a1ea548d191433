/-
# The checks of a configuration and their order

Eleven things are checked about a mapping: that what it gives for each of the seven settings can be
converted, that three of them keep their limits, and that it has no unknown key. `Check.Fails` says
when a check fails and what is told then, each check by itself. The checks have an order, and the
first of them that fails is told; `FirstFailure` is that rule and nothing more.

Loading follows the order check by check, which `AfterChecks` carries from one to the next. So a
mapping is refused by the first check that fails, and if none does, every setting has the value that
the mapping makes it.
-/

import Chip8.Proofs.Config.UnknownKeys

namespace Chip8.Config

/-! ## Checks -/

/-- One thing that is checked about a mapping. -/
inductive Check where
  /-- What is given for the setting can be converted. -/
  | converts (setting : Setting)
  /-- The tick limit is positive. -/
  | tickLimitPositive
  /-- The tick to pause at, if there is one, is not negative. -/
  | pauseTickNonneg
  /-- The steps for each timer tick are positive. -/
  | stepsPerTimerTickPositive
  /-- Every key is the key of a setting. -/
  | keysKnown

namespace Check

/-- Conversions and limits, in the order in which they are checked. -/
def limits : List Check :=
  [converts .tickLimit, converts .pauseTick, converts .stepsPerTimerTick, converts .seed,
    converts .shiftFlag, converts .loadFont, converts .quiet, tickLimitPositive, pauseTickNonneg,
    stepsPerTimerTickPositive]

/-- All checks: the keys come last. -/
def all : List Check :=
  limits ++ [keysKnown]

/-- The check fails for the mapping, and this is told. -/
inductive Fails (entries : Entries) : Check → Failure → Prop
  | converts {setting : Setting} {given : Value} {fault : ConversionFault}
    (present : entries.find? setting.key = some given)
    (bad : setting.convert given = .error fault) :
    Fails entries (.converts setting) (.badType fault)
  | tickLimit {limit : Int} (reads : Setting.tickLimit.Reads entries (.integer limit))
    (low : limit ≤ 0) : Fails entries .tickLimitPositive .tickLimitNotPositive
  | pauseTick {tick : Int} (reads : Setting.pauseTick.Reads entries (.integer tick))
    (low : tick < 0) : Fails entries .pauseTickNonneg .pauseTickNegative
  | stepsPerTimerTick {steps : Int}
    (reads : Setting.stepsPerTimerTick.Reads entries (.integer steps)) (low : steps ≤ 0) :
    Fails entries .stepsPerTimerTickPositive .stepsPerTimerTickNotPositive
  | keys {keys : List String} (unknown : ListsUnknown entries keys) (some_left : keys ≠ []) :
    Fails entries .keysKnown (.unknownKeys keys)

/-- The check does not fail for the mapping. -/
def Passes (check : Check) (entries : Entries) : Prop :=
  ∀ failure, ¬ check.Fails entries failure

variable {entries : Entries} {check : Check} {failure other : Failure}

/-- A check that fails tells one thing. -/
theorem Fails.unique (fails : check.Fails entries failure) (also : check.Fails entries other) :
    failure = other := by
  cases fails with
  | converts present bad =>
    cases also with
    | converts present' bad' =>
      cases present.symm.trans present'
      cases bad.symm.trans bad'
      rfl
  | tickLimit =>
    cases also
    rfl
  | pauseTick =>
    cases also
    rfl
  | stepsPerTimerTick =>
    cases also
    rfl
  | keys unknown =>
    cases also with
    | keys unknown' => rw [unknown.unique unknown' fun _ _ => Iff.rfl]

/-- Whatever a check tells is a complaint. -/
theorem Fails.isComplaint (fails : check.Fails entries failure) : failure.isComplaint = true := by
  cases fails with
  | _ => rfl

/-- Where something can be read, what is given can be converted. -/
theorem passes_converts {setting : Setting} {value : Value}
    (reads : setting.Reads entries value) : (converts setting).Passes entries := by
  intro failure fails
  cases fails with
  | converts present bad =>
    rw [Setting.reads_iff, present, Option.getD_some, bad] at reads
    cases reads

/-- What cannot be converted is given, since defaults can. -/
theorem fails_converts {setting : Setting} {fault : ConversionFault}
    (bad : setting.convert ((entries.find? setting.key).getD setting.default) = .error fault) :
    (converts setting).Fails entries (.badType fault) := by
  cases present : entries.find? setting.key with
  | none =>
    rw [present, Option.getD_none, setting.convert_default] at bad
    cases bad
  | some given =>
    rw [present, Option.getD_some] at bad
    exact .converts present bad

theorem passes_tickLimitPositive {limit : Int}
    (reads : Setting.tickLimit.Reads entries (.integer limit)) (positive : 0 < limit) :
    tickLimitPositive.Passes entries := by
  intro failure fails
  cases fails with
  | tickLimit reads' low =>
    cases reads.unique reads'
    exact absurd positive (Int.not_lt.mpr low)

theorem passes_pauseTickNonneg {value : Value} (reads : Setting.pauseTick.Reads entries value)
    (nonneg : ∀ tick, value = .integer tick → 0 ≤ tick) : pauseTickNonneg.Passes entries := by
  intro failure fails
  cases fails with
  | pauseTick reads' low =>
    exact absurd (nonneg _ (reads.unique reads')) (Int.not_le.mpr low)

theorem passes_stepsPerTimerTickPositive {steps : Int}
    (reads : Setting.stepsPerTimerTick.Reads entries (.integer steps)) (positive : 0 < steps) :
    stepsPerTimerTickPositive.Passes entries := by
  intro failure fails
  cases fails with
  | stepsPerTimerTick reads' low =>
    cases reads.unique reads'
    exact absurd positive (Int.not_lt.mpr low)

/-- Where the list of unknown keys is empty, no other list of them is told. -/
theorem passes_keysKnown (lists : ListsUnknown entries []) : keysKnown.Passes entries := by
  intro failure fails
  cases fails with
  | keys unknown some_left => exact some_left (unknown.unique lists fun _ _ => Iff.rfl)

end Check

/-- Of these checks, in this order, the first that fails tells this. -/
inductive FirstFailure (entries : Entries) : List Check → Failure → Prop
  | here {check : Check} {rest : List Check} {failure : Failure}
    (fails : check.Fails entries failure) : FirstFailure entries (check :: rest) failure
  | later {check : Check} {rest : List Check} {failure : Failure} (passes : check.Passes entries)
    (first : FirstFailure entries rest failure) : FirstFailure entries (check :: rest) failure

namespace FirstFailure

variable {entries : Entries} {checks more : List Check} {failure other : Failure}

theorem unique (first : FirstFailure entries checks failure)
    (also : FirstFailure entries checks other) : failure = other := by
  induction first with
  | here fails =>
    cases also with
    | here fails' => exact fails.unique fails'
    | later passes => exact absurd fails (passes _)
  | later passes _ ih =>
    cases also with
    | here fails => exact absurd fails (passes _)
    | later _ rest => exact ih rest

/-- One of the checks fails. -/
theorem fails (first : FirstFailure entries checks failure) :
    ∃ check ∈ checks, check.Fails entries failure := by
  induction first with
  | here fails => exact ⟨_, List.mem_cons_self, fails⟩
  | later _ _ ih =>
    obtain ⟨check, member, fails⟩ := ih
    exact ⟨check, List.mem_cons_of_mem _ member, fails⟩

theorem append_left (first : FirstFailure entries checks failure) (more : List Check) :
    FirstFailure entries (checks ++ more) failure := by
  induction first with
  | here fails => exact .here fails
  | later passes _ ih => exact .later passes ih

theorem append_right (pass : ∀ check ∈ checks, check.Passes entries)
    (first : FirstFailure entries more failure) :
    FirstFailure entries (checks ++ more) failure := by
  induction checks with
  | nil => exact first
  | cons check rest ih =>
    exact .later (pass check List.mem_cons_self)
      (ih fun other member => pass other (List.mem_cons_of_mem check member))

end FirstFailure

/-! ## Loading follows the checks -/

/-- What is left of an answer after some checks: it tells the first failure, or they all pass and
the rest is as it should be. -/
def AfterChecks {α : Type} (tells : α → Failure → Prop) (entries : Entries) (checks : List Check)
    (rest : α → Prop) (answer : α) : Prop :=
  (∃ failure, FirstFailure entries checks failure ∧ tells answer failure) ∨
    (∀ check ∈ checks, check.Passes entries) ∧ rest answer

/-- The answer is this failure. -/
def Tells (answer : Except Failure Config) (failure : Failure) : Prop :=
  answer = .error failure

namespace AfterChecks

variable {α : Type} {tells : α → Failure → Prop} {entries : Entries} {check : Check}
  {checks : List Check} {rest : α → Prop} {answer : α}

/-- With no checks left the rest is all there is. -/
theorem done (correct : rest answer) : AfterChecks tells entries [] rest answer :=
  .inr ⟨List.forall_mem_nil _, correct⟩

theorem here {failure : Failure} (fails : check.Fails entries failure)
    (told : tells answer failure) : AfterChecks tells entries (check :: checks) rest answer :=
  .inl ⟨failure, .here fails, told⟩

theorem later (passes : check.Passes entries)
    (after : AfterChecks tells entries checks rest answer) :
    AfterChecks tells entries (check :: checks) rest answer := by
  rcases after with ⟨failure, first, told⟩ | ⟨pass, correct⟩
  · exact .inl ⟨failure, .later passes first, told⟩
  · exact .inr ⟨List.forall_mem_cons.mpr ⟨passes, pass⟩, correct⟩

theorem imp {other : α → Prop} (after : AfterChecks tells entries checks rest answer)
    (weaker : rest answer → other answer) : AfterChecks tells entries checks other answer := by
  rcases after with refused | ⟨pass, correct⟩
  · exact .inl refused
  · exact .inr ⟨pass, weaker correct⟩

end AfterChecks

section Loading

variable {entries : Entries} {check : Check} {checks : List Check}
  {rest : Except Failure Config → Prop}

/-- A setting is read, and the rest goes on with its value. -/
theorem afterSetting {α : Type} (setting : Setting) (wrap : α → Value) {default : α}
    {convert : Value → Except ConversionFault α} {next : α → Except Failure Config}
    (converts : ∀ given, setting.convert given = (convert given).map wrap)
    (defaults : setting.default = wrap default)
    (later : ∀ value, setting.Reads entries (wrap value) →
      AfterChecks Tells entries checks rest (next value)) :
    AfterChecks Tells entries (.converts setting :: checks) rest
      (Config.setting entries setting.key default convert >>= next) := by
  rw [Config.setting]
  cases found : entries.find? setting.key with
  | none =>
    have reads : setting.Reads entries (wrap default) := by
      rw [Setting.Reads, found]
      exact defaults.symm
    exact .later (Check.passes_converts reads) (later default reads)
  | some given =>
    have ruled := converts given
    dsimp only
    cases converted : convert given with
    | ok value =>
      rw [converted] at ruled
      have reads : setting.Reads entries (wrap value) := by
        rw [Setting.Reads, found]
        exact Setting.convert_eq_ok_iff.mp ruled
      exact .later (Check.passes_converts reads) (later value reads)
    | error fault =>
      rw [converted] at ruled
      exact .here (.converts found ruled) rfl

/-- A limit is checked, and the rest goes on if it is kept. -/
theorem afterLimit {holds : Prop} [Decidable holds] {failure : Failure}
    {next : holds → Except Failure Config} (passes : holds → check.Passes entries)
    (fails : ¬ holds → check.Fails entries failure)
    (later : ∀ kept, AfterChecks Tells entries checks rest (next kept)) :
    AfterChecks Tells entries (check :: checks) rest
      (if kept : holds then next kept else .error failure) := by
  by_cases kept : holds
  · rw [dif_pos kept]
    exact .later (passes kept) (later kept)
  · rw [dif_neg kept]
    exact .here (fails kept) rfl

end Loading

/-- A mapping makes every setting what it is in the configuration. -/
def ReadFrom (config : Config) (entries : Entries) : Prop :=
  ∀ setting : Setting, setting.Reads entries (config.value setting)

/-- After conversions and limits there is a configuration, and the keys remain to be checked. -/
theorem afterChecks_ofEntries (entries : Entries) :
    AfterChecks Tells entries Check.limits
      (fun answer => ∃ config : Config, config.ReadFrom entries ∧
        answer = (checkKeys entries).map fun _ => config) (ofEntries entries) := by
  unfold ofEntries
  -- one check after another, as they stand in `Check.limits`
  refine afterSetting .tickLimit .integer (fun _ => rfl) rfl fun tickLimit readsTickLimit => ?_
  refine afterSetting .pauseTick optionalInteger (fun _ => rfl) rfl
    fun pauseTick readsPauseTick => ?_
  refine afterSetting .stepsPerTimerTick .integer (fun _ => rfl) rfl fun steps readsSteps => ?_
  refine afterSetting .seed optionalInteger (fun _ => rfl) rfl fun seed readsSeed => ?_
  refine afterSetting .shiftFlag .boolean (fun _ => rfl) rfl fun shiftFlag readsShiftFlag => ?_
  refine afterSetting .loadFont .boolean (fun _ => rfl) rfl fun loadFont readsLoadFont => ?_
  refine afterSetting .quiet .boolean (fun _ => rfl) rfl fun quiet readsQuiet => ?_
  refine afterLimit (Check.passes_tickLimitPositive readsTickLimit)
    (fun low => .tickLimit readsTickLimit (Int.not_lt.mp low)) fun positive => ?_
  refine afterLimit (fun nonneg => Check.passes_pauseTickNonneg readsPauseTick ?_)
    (fun low => ?_) fun nonneg => ?_
  · cases pauseTick with
    | none => exact nofun
    | some pause => exact fun tick same => nonneg tick (congrArg some (Value.integer.inj same))
  · cases pauseTick with
    | none => exact absurd nofun low
    | some tick =>
      refine .pauseTick readsPauseTick (Int.not_le.mp fun nonneg => low fun _ same => ?_)
      cases same
      exact nonneg
  refine afterLimit (Check.passes_stepsPerTimerTickPositive readsSteps)
    (fun low => .stepsPerTimerTick readsSteps (Int.not_lt.mp low)) fun positive' => ?_
  refine .done ⟨⟨tickLimit, pauseTick, steps, shiftFlag, loadFont, seed, quiet, positive, nonneg,
    positive'⟩, fun setting => ?_, ?_⟩
  · cases setting with
    | _ => assumption
  · cases checkKeys entries with
    | _ => rfl

/-- What comes of a mapping whose keys are texts. -/
theorem ofEntries_cases {entries : Entries} (textKeys : entries.TextKeys) :
    (∃ failure, FirstFailure entries Check.all failure ∧ ofEntries entries = .error failure) ∨
      ∃ config : Config, config.ReadFrom entries ∧ (∀ check ∈ Check.all, check.Passes entries) ∧
        ofEntries entries = .ok config := by
  rcases afterChecks_ofEntries entries with ⟨failure, first, refused⟩ | ⟨pass, config, reads, left⟩
  · exact .inl ⟨failure, first.append_left [.keysKnown], refused⟩
  · obtain ⟨keys, lists, checked⟩ := checkKeys_of_textKeys textKeys
    by_cases known : keys = []
    · rw [checked, if_pos known] at left
      refine .inr ⟨config, reads, List.forall_mem_append.mpr ⟨pass, ?_⟩, left⟩
      rw [known] at lists
      exact List.forall_mem_singleton.mpr (Check.passes_keysKnown lists)
    · rw [checked, if_neg known] at left
      exact .inl ⟨.unknownKeys keys, .append_right pass (.here (.keys lists known)), left⟩

variable {entries : Entries}

/-- A mapping whose keys are texts is refused by the first check that fails. -/
theorem ofEntries_eq_error_iff (textKeys : entries.TextKeys) {failure : Failure} :
    ofEntries entries = .error failure ↔ FirstFailure entries Check.all failure := by
  rcases ofEntries_cases textKeys with ⟨told, first, refused⟩ | ⟨config, _, pass, loaded⟩
  · rw [refused, Except.error.injEq]
    constructor
    · rintro rfl
      exact first
    · exact first.unique
  · rw [loaded]
    refine iff_of_false nofun fun first => ?_
    obtain ⟨check, member, fails⟩ := first.fails
    exact pass check member failure fails

/-! ## Mappings within the limits -/

/-- Whatever the mapping gives for a setting can be converted and keeps its limit. -/
structure WithinLimits (entries : Entries) : Prop where
  tickLimit : ∀ given ∈ entries.find? "tick_limit", ∃ limit, given.ReadsAs limit ∧ 0 < limit
  pauseTick : ∀ given ∈ entries.find? "pause_tick",
    given = .null ∨ ∃ tick, given.ReadsAs tick ∧ 0 ≤ tick
  stepsPerTimerTick : ∀ given ∈ entries.find? "steps_per_timer_tick",
    ∃ steps, given.ReadsAs steps ∧ 0 < steps
  seed : ∀ given ∈ entries.find? "rng_seed", given = .null ∨ ∃ seed, given.ReadsAs seed
  flags : ∀ key ∈ ["shift_flag_lsb", "load_font", "lenient_log"], ∀ given ∈ entries.find? key,
    ∃ flag, given.CountsAs flag

/-- What is given for a setting stands for its value. -/
theorem ReadFrom.accepts {config : Config} (reads : config.ReadFrom entries) (setting : Setting)
    {given : Value} (present : given ∈ entries.find? setting.key) :
    setting.Accepts given (config.value setting) := by
  have read := reads setting
  rwa [Setting.Reads, present] at read

theorem withinLimits_of_readFrom {config : Config} (reads : config.ReadFrom entries) :
    WithinLimits entries where
  tickLimit given present := by
    obtain ⟨limit, readsAs, same⟩ := reads.accepts .tickLimit present
    cases same
    exact ⟨_, readsAs, config.tickLimit_pos⟩
  pauseTick given present := by
    rcases reads.accepts .pauseTick present with ⟨nothing, _⟩ | ⟨tick, readsAs, same⟩
    · exact .inl nothing
    · refine .inr ⟨tick, readsAs, config.pauseTick_nonneg tick ?_⟩
      revert same
      rw [value]
      cases config.pauseTick with
      | none => exact nofun
      | some _ => exact fun same => congrArg some (Value.integer.inj same)
  stepsPerTimerTick given present := by
    obtain ⟨steps, readsAs, same⟩ := reads.accepts .stepsPerTimerTick present
    cases same
    exact ⟨_, readsAs, config.stepsPerTimerTick_pos⟩
  seed given present := by
    rcases reads.accepts .seed present with ⟨nothing, _⟩ | ⟨seed, readsAs, _⟩
    · exact .inl nothing
    · exact .inr ⟨seed, readsAs⟩
  flags key flag given present := by
    simp only [List.mem_cons, List.not_mem_nil, or_false] at flag
    rcases flag with rfl | rfl | rfl
    · exact (reads.accepts .shiftFlag present).imp fun _ => And.left
    · exact (reads.accepts .loadFont present).imp fun _ => And.left
    · exact (reads.accepts .quiet present).imp fun _ => And.left

/-- Within the limits everything that is given can be converted. -/
theorem WithinLimits.accepts (within : WithinLimits entries) (setting : Setting) {given : Value}
    (present : given ∈ entries.find? setting.key) : ∃ value, setting.Accepts given value := by
  cases setting with
  | tickLimit =>
    obtain ⟨limit, readsAs, _⟩ := within.tickLimit given present
    exact ⟨.integer limit, limit, readsAs, rfl⟩
  | pauseTick =>
    rcases within.pauseTick given present with nothing | ⟨tick, readsAs, _⟩
    · exact ⟨.null, .inl ⟨nothing, rfl⟩⟩
    · exact ⟨.integer tick, .inr ⟨tick, readsAs, rfl⟩⟩
  | stepsPerTimerTick =>
    obtain ⟨steps, readsAs, _⟩ := within.stepsPerTimerTick given present
    exact ⟨.integer steps, steps, readsAs, rfl⟩
  | seed =>
    rcases within.seed given present with nothing | ⟨seed, readsAs⟩
    · exact ⟨.null, .inl ⟨nothing, rfl⟩⟩
    · exact ⟨.integer seed, .inr ⟨seed, readsAs, rfl⟩⟩
  | shiftFlag | loadFont | quiet =>
    obtain ⟨flag, counts⟩ := within.flags _ (by decide) given present
    exact ⟨.boolean flag, flag, counts, rfl⟩

/-- Within the limits conversions and limits all pass. -/
theorem WithinLimits.passes (within : WithinLimits entries) :
    ∀ check ∈ Check.limits, check.Passes entries := by
  intro check member failure fails
  cases fails with
  | converts present bad =>
    obtain ⟨value, accepts⟩ := within.accepts _ present
    cases bad.symm.trans (Setting.convert_eq_ok_iff.mpr accepts)
  | tickLimit reads low =>
    rcases reads.integer_cases with same | ⟨given, present, readsAs⟩
    · cases same
      exact absurd low (by decide)
    · obtain ⟨_, also, positive⟩ := within.tickLimit given present
      exact absurd (also.unique readsAs ▸ positive) (Int.not_lt.mpr low)
  | pauseTick reads low =>
    rcases reads.integer_cases with same | ⟨given, present, readsAs⟩
    · cases same
    · rcases within.pauseTick given present with rfl | ⟨_, also, nonneg⟩
      · cases readsAs
      · exact absurd (also.unique readsAs ▸ nonneg) (Int.not_le.mpr low)
  | stepsPerTimerTick reads low =>
    rcases reads.integer_cases with same | ⟨given, present, readsAs⟩
    · cases same
      exact absurd low (by decide)
    · obtain ⟨_, also, positive⟩ := within.stepsPerTimerTick given present
      exact absurd (also.unique readsAs ▸ positive) (Int.not_lt.mpr low)
  | keys => exact absurd member (by simp [Check.limits])

/-- The last check passes if every key is known. -/
theorem passes_keysKnown_iff (textKeys : entries.TextKeys) :
    Check.keysKnown.Passes entries ↔
      ∀ entry ∈ entries, ∃ key ∈ knownKeys, entry.1 = .text key := by
  obtain ⟨keys, lists, _⟩ := checkKeys_of_textKeys textKeys
  constructor
  · intro passes entry member
    obtain ⟨key, same⟩ := textKeys entry member
    refine ⟨key, ?_, same⟩
    by_contra unknown
    have listed := (lists.mem_iff key).mpr ⟨same ▸ List.mem_map_of_mem member, unknown⟩
    exact passes _ (.keys lists (List.ne_nil_of_mem listed))
  · intro known failure fails
    cases fails with
    | keys unknown some_left =>
      obtain ⟨key, listed⟩ := List.exists_mem_of_ne_nil _ some_left
      obtain ⟨given, outside⟩ := (unknown.mem_iff key).mp listed
      obtain ⟨entry, member, same⟩ := List.mem_map.mp given
      obtain ⟨_, inside, also⟩ := known entry member
      cases same.symm.trans also
      exact outside inside

/-- A mapping whose keys are texts is loaded if it keeps the limits and every key is known, and in
no other case. -/
theorem loads_iff (textKeys : entries.TextKeys) :
    (∃ config, ofEntries entries = .ok config) ↔
      WithinLimits entries ∧ ∀ entry ∈ entries, ∃ key ∈ knownKeys, entry.1 = .text key := by
  rw [← passes_keysKnown_iff textKeys]
  rcases ofEntries_cases textKeys with ⟨failure, first, refused⟩ | ⟨config, reads, pass, loaded⟩
  · refine iff_of_false (by simp [refused]) fun ⟨within, known⟩ => ?_
    obtain ⟨check, member, fails⟩ := first.fails
    rcases List.mem_append.mp member with limit | last
    · exact within.passes check limit failure fails
    · cases List.mem_singleton.mp last
      exact known failure fails
  · exact iff_of_true ⟨config, loaded⟩
      ⟨withinLimits_of_readFrom reads, pass _ (List.mem_append_right _ List.mem_cons_self)⟩

/-- Mappings with the same keys and the same lookups are loaded alike. -/
theorem ofEntries_congr {other : Entries} (textKeys : entries.TextKeys)
    (also : other.TextKeys) (found : ∀ key, other.find? key = entries.find? key)
    (keys : ∀ key, key ∈ other.map Prod.fst ↔ key ∈ entries.map Prod.fst) :
    ofEntries other = ofEntries entries := by
  have checked : checkKeys other = checkKeys entries := by
    obtain ⟨_, lists, told⟩ := checkKeys_of_textKeys textKeys
    obtain ⟨_, lists', told'⟩ := checkKeys_of_textKeys also
    rw [told, told', lists'.unique lists fun key _ => keys (.text key)]
  simp only [ofEntries, Config.setting, found, checked]

end Chip8.Config
