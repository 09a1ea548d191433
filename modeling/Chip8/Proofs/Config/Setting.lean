/-
# The seven settings

What a mapping says about a setting is the last value under its key. The value may be a number, a
text or something else, and not every value will do. `ReadsAs` lists the values that stand for
integers and `CountsAs` those that stand for truth values, and these are just the ones that are
converted. Nothing at all stands for neither, but two of the settings may stay without a value.

The settings differ in their keys, their defaults and the rule for their values, and in nothing
else. `Setting` names them, so that what holds of each is said once.
-/

import Chip8.Config.Load

namespace Chip8

/-! ## Lookups -/

namespace Entries

variable {entries other : Entries} {key : String} {value : Value}

/-- Looking on with something found already: what comes later replaces it. -/
theorem foldl_find? (entries : Entries) (key : String) (found : Option Value) :
    entries.foldl (fun found entry => if entry.1.text? = some key then some entry.2 else found)
      found = (find? entries key).or found := by
  induction entries generalizing found with
  | nil => rfl
  | cons entry rest ih =>
    rw [find?, List.foldl_cons, List.foldl_cons, ih,
      ih (if entry.1.text? = some key then _ else none), Option.or_assoc]
    split
    · rfl
    · rfl

/-- Of several values under a key the last one counts. -/
theorem find?_append (before after : Entries) (key : String) :
    find? (before ++ after) key = (find? after key).or (find? before key) := by
  rw [find?, List.foldl_append, foldl_find? after]
  rfl

theorem find?_cons (entry : Value × Value) (rest : Entries) (key : String) :
    find? (entry :: rest) key =
      (find? rest key).or (if entry.1.text? = some key then some entry.2 else none) :=
  find?_append [entry] rest key

end Entries

namespace Value

theorem eq_text_of_text? {value : Value} {key : String} (same : value.text? = some key) :
    value = .text key := by
  cases value with
  | text text =>
    cases same
    rfl
  | _ => cases same

end Value

namespace Entries

variable {entries other : Entries} {key : String} {value : Value}

theorem mem_of_find? (found : entries.find? key = some value) : (.text key, value) ∈ entries := by
  induction entries with
  | nil => cases found
  | cons entry rest ih =>
    rw [find?_cons, Option.or_eq_some_iff] at found
    rcases found with later | ⟨_, here⟩
    · exact List.mem_cons_of_mem entry (ih later)
    · split at here
      · rename_i same
        cases here
        rw [← Value.eq_text_of_text? same]
        exact List.mem_cons_self
      · cases here

/-- Where no key stands twice, whatever is there is found. -/
theorem find?_of_mem (single : (entries.map Prod.fst).Nodup)
    (member : (.text key, value) ∈ entries) : entries.find? key = some value := by
  induction entries with
  | nil => cases member
  | cons entry rest ih =>
    rw [List.map_cons, List.nodup_cons] at single
    rw [find?_cons]
    rcases List.mem_cons.mp member with rfl | later
    · cases found : Entries.find? rest key with
      | none => exact Option.none_or.trans (if_pos rfl)
      | some another =>
        exact absurd (List.mem_map_of_mem (mem_of_find? found)) single.1
    · rw [ih single.2 later, Option.some_or]

/-- Where no key stands twice, the order of the entries does not matter. -/
theorem find?_perm (single : (entries.map Prod.fst).Nodup) (same : entries.Perm other)
    (key : String) : other.find? key = entries.find? key := by
  have also_single := (same.map Prod.fst).nodup_iff.mp single
  refine Option.ext fun value => ⟨fun found => ?_, fun found => ?_⟩
  · exact find?_of_mem single (same.mem_iff.mpr (mem_of_find? found))
  · exact find?_of_mem also_single (same.mem_iff.mp (mem_of_find? found))

end Entries

/-! ## Values that will do -/

/-- A double is cut toward zero: its whole part is the quotient without the remainder. -/
theorem Binary64.truncate_eq_tdiv (negative : Bool) (mantissa : Nat) (exponent : Int) :
    truncate negative mantissa exponent =
      (toRatio negative mantissa exponent).1.tdiv (toRatio negative mantissa exponent).2 := by
  simp only [truncate, toRatio]
  cases negative with
  | false => rfl
  | true => rw [if_pos rfl, if_pos rfl, Int.neg_tdiv, ← Int.ofNat_tdiv]

namespace Value

/-- The integer that a value stands for: a truth value for one or zero, a finite double for its
whole part, a text for the number that is written there, and any other thing for what it is
converted to. -/
inductive ReadsAs : Value → Int → Prop
  | boolean (flag : Bool) : ReadsAs (.boolean flag) (if flag then 1 else 0)
  | integer (number : Int) : ReadsAs (.integer number) number
  | real (negative : Bool) (mantissa : Nat) (exponent : Int) :
    ReadsAs (.real (.finite negative mantissa exponent))
      ((Binary64.toRatio negative mantissa exponent).1.tdiv
        (Binary64.toRatio negative mantissa exponent).2)
  | text {text : String} {number : Int} (read : Text.readInteger .ten text.toList = .ok number) :
    ReadsAs (.text text) number
  | other {thing : Thing} {number : Int} (converts : thing.integer = .ok number) :
    ReadsAs (.other thing) number

/-- The truth value that a value stands for: a text by its word, anything else by whether it is
empty or zero. -/
inductive CountsAs : Value → Bool → Prop
  | yes {text : String} (word : wordOf text ∈ trueWords) : CountsAs (.text text) true
  | no {text : String} (word : wordOf text ∈ falseWords) : CountsAs (.text text) false
  | plain {value : Value} (other : value.text? = none) : CountsAs value value.isTrue

variable {value : Value}

theorem toInteger_eq_ok_iff {number : Int} :
    value.toInteger = .ok number ↔ value.ReadsAs number := by
  constructor
  · intro converted
    cases value with
    | null | list | mapping => cases converted
    | boolean flag =>
      cases converted
      exact .boolean flag
    | integer number =>
      cases converted
      exact .integer number
    | real double =>
      cases double with
      | finite negative mantissa exponent =>
        cases converted
        rw [Binary64.truncate_eq_tdiv]
        exact .real negative mantissa exponent
      | infinite | notANumber => cases converted
    | text text =>
      rw [toInteger] at converted
      split at converted
      · rename_i read
        cases converted
        exact .text read
      · cases converted
      · cases converted
    | other thing =>
      rw [toInteger] at converted
      split at converted
      · rename_i converts
        cases converted
        exact .other converts
      · cases converted
  · intro reads
    cases reads with
    | boolean | integer => rfl
    | real negative mantissa exponent => rw [toInteger, Binary64.truncate_eq_tdiv]
    | text read => rw [toInteger, read]
    | other converts => rw [toInteger, converts]

theorem ReadsAs.unique {number other : Int} (reads : value.ReadsAs number)
    (also : value.ReadsAs other) : number = other :=
  Except.ok.inj ((toInteger_eq_ok_iff.mpr reads).symm.trans (toInteger_eq_ok_iff.mpr also))

theorem toInteger?_eq_ok_iff {number : Option Int} :
    value.toInteger? = .ok number ↔
      (value = .null ∧ number = none) ∨ ∃ whole, number = some whole ∧ value.ReadsAs whole := by
  by_cases nothing : value = .null
  · subst nothing
    simp [toInteger?, ← toInteger_eq_ok_iff, toInteger, eq_comm]
  · rw [toInteger?.eq_2 value nothing]
    simp only [nothing, false_and, false_or, ← toInteger_eq_ok_iff]
    cases value.toInteger with
    | error fault => simp [Except.map]
    | ok whole => simp [Except.map, eq_comm]

theorem toBoolean_eq_ok_iff {flag : Bool} : value.toBoolean = .ok flag ↔ value.CountsAs flag := by
  constructor
  · intro converted
    cases value with
    | text text =>
      rw [toBoolean] at converted
      split at converted
      · rename_i word
        cases converted
        exact .yes word
      · split at converted
        · rename_i word
          cases converted
          exact .no word
        · cases converted
    | _ =>
      cases converted
      exact .plain rfl
  · intro counts
    cases counts with
    | yes word => exact if_pos word
    | no word =>
      have other : ∀ word ∈ falseWords, word ∉ trueWords := by decide
      exact (if_neg (other _ word)).trans (if_pos word)
    | plain other =>
      cases value with
      | text => cases other
      | _ => rfl

end Value

/-! ## Settings -/

namespace Config

/-- The settings of a configuration. -/
inductive Setting where
  | tickLimit
  | pauseTick
  | stepsPerTimerTick
  | shiftFlag
  | loadFont
  | seed
  | quiet
  deriving DecidableEq, Repr

namespace Setting

/-- The settings in the order in which a configuration is written out. -/
def all : List Setting :=
  [tickLimit, pauseTick, stepsPerTimerTick, shiftFlag, loadFont, seed, quiet]

/-- The key of a setting. -/
def key : Setting → String
  | tickLimit => "tick_limit"
  | pauseTick => "pause_tick"
  | stepsPerTimerTick => "steps_per_timer_tick"
  | shiftFlag => "shift_flag_lsb"
  | loadFont => "load_font"
  | seed => "rng_seed"
  | quiet => "lenient_log"

/-- What a setting is when a mapping does not give it. -/
def default : Setting → Value
  | tickLimit => .integer 100000
  | pauseTick => .null
  | stepsPerTimerTick => .integer 10
  | shiftFlag => .boolean false
  | loadFont => .boolean true
  | seed => .null
  | quiet => .boolean false

/-- The value of a setting out of what is given for it. -/
def convert : Setting → Value → Except ConversionFault Value
  | tickLimit, given | stepsPerTimerTick, given => given.toInteger.map .integer
  | pauseTick, given | seed, given => given.toInteger?.map optionalInteger
  | shiftFlag, given | loadFont, given | quiet, given => given.toBoolean.map .boolean

/-- What is given for a setting stands for this value. Only the tick to pause at and the seed may be
nothing. -/
def Accepts (setting : Setting) (given value : Value) : Prop :=
  match setting with
  | tickLimit | stepsPerTimerTick => ∃ number, given.ReadsAs number ∧ value = .integer number
  | pauseTick | seed =>
    (given = .null ∧ value = .null) ∨ ∃ number, given.ReadsAs number ∧ value = .integer number
  | shiftFlag | loadFont | quiet => ∃ flag, given.CountsAs flag ∧ value = .boolean flag

/-- A mapping makes a setting this value: what the given one stands for, or else the default. -/
def Reads (setting : Setting) (entries : Entries) (value : Value) : Prop :=
  match entries.find? setting.key with
  | none => value = setting.default
  | some given => setting.Accepts given value

theorem mem_all (setting : Setting) : setting ∈ all := by
  cases setting with
  | _ => decide

theorem knownKeys_eq : knownKeys = all.map key :=
  rfl

theorem key_injective : Function.Injective key := by
  intro setting other same
  cases setting with
  | _ =>
    cases other with
    | _ => first | rfl | exact absurd same (by decide)

/-- A default is converted to itself. -/
theorem convert_default (setting : Setting) :
    setting.convert setting.default = .ok setting.default := by
  cases setting with
  | _ => rfl

variable {setting : Setting} {entries : Entries} {given value other : Value}

/-- What is given is converted to what it stands for, and to nothing else. -/
theorem convert_eq_ok_iff : setting.convert given = .ok value ↔ setting.Accepts given value := by
  cases setting with
  | tickLimit | stepsPerTimerTick =>
    simp only [convert, Accepts, ← Value.toInteger_eq_ok_iff]
    cases given.toInteger with
    | error fault => simp [Except.map]
    | ok number => simp [Except.map, eq_comm]
  | pauseTick | seed =>
    simp only [convert, Accepts]
    constructor
    · intro converted
      cases read : given.toInteger? with
      | error fault =>
        rw [read] at converted
        cases converted
      | ok number =>
        rw [read] at converted
        cases converted
        rcases Value.toInteger?_eq_ok_iff.mp read with ⟨rfl, rfl⟩ | ⟨whole, rfl, reads⟩
        · exact .inl ⟨rfl, rfl⟩
        · exact .inr ⟨whole, reads, rfl⟩
    · rintro (⟨rfl, rfl⟩ | ⟨whole, reads, rfl⟩)
      · rfl
      · rw [Value.toInteger?_eq_ok_iff.mpr (.inr ⟨whole, rfl, reads⟩)]
        rfl
  | shiftFlag | loadFont | quiet =>
    simp only [convert, Accepts, ← Value.toBoolean_eq_ok_iff]
    cases given.toBoolean with
    | error fault => simp [Except.map]
    | ok flag => simp [Except.map, eq_comm]

/-- It makes no difference whether a default is converted. -/
theorem reads_iff : setting.Reads entries value ↔
    setting.convert ((entries.find? setting.key).getD setting.default) = .ok value := by
  rw [Reads]
  cases entries.find? setting.key with
  | none => rw [Option.getD_none, convert_default, Except.ok.injEq, eq_comm]
  | some given => exact convert_eq_ok_iff.symm

/-- A setting that cannot be nothing and is no flag is an integer. -/
theorem Reads.exists_integer {setting : Setting}
    (whole : setting = tickLimit ∨ setting = stepsPerTimerTick)
    (reads : setting.Reads entries value) : ∃ number, value = .integer number := by
  rw [Reads] at reads
  rcases whole with rfl | rfl
  all_goals
    split at reads
    · exact ⟨_, reads⟩
    · obtain ⟨number, _, same⟩ := reads
      exact ⟨number, same⟩

/-- The tick to pause at is nothing or an integer. -/
theorem Reads.null_or_integer (reads : pauseTick.Reads entries value) :
    value = .null ∨ ∃ number, value = .integer number := by
  rw [Reads] at reads
  split at reads
  · exact .inl reads
  · rcases reads with ⟨_, nothing⟩ | ⟨number, _, same⟩
    · exact .inl nothing
    · exact .inr ⟨number, same⟩

/-- An integer stands for an integer only where one is given that is read as it. -/
theorem Accepts.readsAs {number : Int} (accepts : setting.Accepts given (.integer number)) :
    given.ReadsAs number := by
  cases setting with
  | tickLimit | stepsPerTimerTick =>
    obtain ⟨_, readsAs, same⟩ := accepts
    cases same
    exact readsAs
  | pauseTick | seed =>
    rcases accepts with ⟨_, same⟩ | ⟨_, readsAs, same⟩
    · cases same
    · cases same
      exact readsAs
  | shiftFlag | loadFont | quiet =>
    obtain ⟨_, _, same⟩ := accepts
    cases same

/-- A setting that is an integer is so by default or because it is given. -/
theorem Reads.integer_cases {number : Int} (reads : setting.Reads entries (.integer number)) :
    setting.default = .integer number ∨
      ∃ given ∈ entries.find? setting.key, given.ReadsAs number := by
  rw [Reads] at reads
  cases present : entries.find? setting.key with
  | none =>
    rw [present] at reads
    exact .inl reads.symm
  | some given =>
    rw [present] at reads
    exact .inr ⟨given, rfl, reads.readsAs⟩

theorem Reads.unique (reads : setting.Reads entries value) (also : setting.Reads entries other) :
    value = other :=
  Except.ok.inj ((reads_iff.mp reads).symm.trans (reads_iff.mp also))

end Setting

/-- The value of a setting in a configuration. -/
def value (config : Config) : Setting → Value
  | .tickLimit => .integer config.tickLimit
  | .pauseTick => optionalInteger config.pauseTick
  | .stepsPerTimerTick => .integer config.stepsPerTimerTick
  | .shiftFlag => .boolean config.shiftFlagFromLowBit
  | .loadFont => .boolean config.loadFont
  | .seed => optionalInteger config.seed
  | .quiet => .boolean config.quiet

/-- A mapping with just the keys of the settings, in the order of `Setting.all`. -/
def row (values : Setting → Value) : Entries :=
  Setting.all.map fun setting => (.text setting.key, values setting)

theorem find?_row (values : Setting → Value) (setting : Setting) :
    (row values).find? setting.key = some (values setting) := by
  cases setting with
  | _ => rfl

end Config

end Chip8
