/-
# Loading in place

Nothing can be said of a mapping that is given to `load` but that it stays what it is, since it is
a value. Here dictionaries lie at places, and whoever knows a place can change what lies there. A
dictionary is loaded in place: the defaults are copied, what is given is written over the copy, each
setting is converted where it lies, and the limits are checked on what lies there then.

More can go wrong this way. A place may hold no dictionary, a key may be missing, and a value may
have no order to be checked by. That none of this ever happens, that a new dictionary comes of it,
and that all others stay what they are, is a matter of what the changes do.
-/

import Chip8.Proofs.Config.Check

namespace Chip8

/-! ## Dictionaries at places -/

namespace Entries

/-- Put a value under a key: in place of what is there, or else behind everything. -/
def put : Entries → Value → Value → Entries
  | [], key, value => [(key, value)]
  | entry :: rest, key, value =>
    if entry.1.sameKey key then (entry.1, value) :: rest else entry :: put rest key value

/-- Put all of these entries, one after another. -/
def update (entries given : Entries) : Entries :=
  given.foldl (fun entries entry => entries.put entry.1 entry.2) entries

end Entries

namespace Config

/-- What can go wrong when a dictionary is loaded in place. -/
inductive RawFailure where
  /-- A failure that every way of loading knows. -/
  | refused (failure : Failure)
  /-- There is no dictionary at the place. -/
  | noDictionary
  /-- There is no such key. -/
  | noKey
  /-- The value has no order with zero. -/
  | notComparable

/-- A change of the dictionaries that may fail on its way. -/
abbrev InPlace (α : Type) := EStateM RawFailure (List Entries) α

namespace InPlace

def fail {α : Type} (failure : RawFailure) : InPlace α :=
  fun dictionaries => .error failure dictionaries

def dictionary (place : Nat) : InPlace Entries := do
  match (← get)[place]? with
  | some entries => return entries
  | none => fail .noDictionary

/-- Copy a dictionary to a new place. -/
def copy (place : Nat) : InPlace Nat := do
  let entries ← dictionary place
  let dictionaries ← get
  set (dictionaries ++ [entries])
  return dictionaries.length

def put (place : Nat) (key value : Value) : InPlace Unit := do
  let entries ← dictionary place
  modify fun dictionaries => dictionaries.set place (entries.put key value)

def update (place : Nat) : Entries → InPlace Unit
  | [] => pure ()
  | entry :: rest => do
    put place entry.1 entry.2
    update place rest

/-- Put what lies at another place, if one is given. -/
def updateFrom (place : Nat) : Option Nat → InPlace Unit
  | some source => do update place (← dictionary source)
  | none => pure ()

def valueAt (place : Nat) (key : String) : InPlace Value := do
  match (← dictionary place).find? key with
  | some value => return value
  | none => fail .noKey

/-- What is taken for a setting that does not lie where it should: nothing, if it may be nothing,
and otherwise the default. -/
def absent (defaults : Nat) : Setting → InPlace Value
  | .pauseTick | .seed => pure .null
  | setting => valueAt defaults setting.key

/-- Convert a setting where it lies. -/
def convert (defaults place : Nat) (setting : Setting) : InPlace Unit := do
  let other ← absent defaults setting
  let given := ((← dictionary place).find? setting.key).getD other
  match setting.convert given with
  | .ok value => put place (.text setting.key) value
  | .error fault => fail (.refused (.badType fault))

def convertAll (defaults place : Nat) : List Setting → InPlace Unit
  | [] => pure ()
  | setting :: rest => do
    convert defaults place setting
    convertAll defaults place rest

def checkPositive (place : Nat) (key : String) (failure : Failure) : InPlace Unit := do
  match ← valueAt place key with
  | .integer number => if number ≤ 0 then fail (.refused failure) else pure ()
  | _ => fail .notComparable

def checkPauseTick (place : Nat) : InPlace Unit := do
  match ← valueAt place "pause_tick" with
  | .null => pure ()
  | .integer tick => if tick < 0 then fail (.refused .pauseTickNegative) else pure ()
  | _ => fail .notComparable

def checkKeys (defaults place : Nat) : InPlace Unit := do
  let known := (← dictionary defaults).filterMap fun entry => entry.1.text?
  match UnknownKeys.ofEntries known (← dictionary place) with
  | .none => pure ()
  | .texts keys => fail (.refused (.unknownKeys keys))
  | .notText kind => fail (.refused (.keyNotText kind))
  | .unordered left right => fail (.refused (.keysUnordered left right))

/-- Load the dictionary at a place, if one is given, over the defaults at another. The place of the
result is told. -/
def load (defaults : Nat) (given : Option Nat) : InPlace Nat := do
  let place ← copy defaults
  updateFrom place given
  convertAll defaults place
    [.tickLimit, .pauseTick, .stepsPerTimerTick, .seed, .shiftFlag, .loadFont, .quiet]
  checkPositive place "tick_limit" .tickLimitNotPositive
  checkPauseTick place
  checkPositive place "steps_per_timer_tick" .stepsPerTimerTickNotPositive
  checkKeys defaults place
  return place

end InPlace

/-! ## Writing over the defaults -/

/-- Entries whose keys are texts that no setting has. -/
def Foreign (entries : Entries) : Prop :=
  ∀ entry ∈ entries, ∃ key ∉ knownKeys, entry.1 = .text key

variable {values : Setting → Value} {foreign given : Entries}

/-- A setting is put where it lies. -/
theorem put_row (values : Setting → Value) (foreign : Entries) (setting : Setting) (value : Value) :
    (row values ++ foreign).put (.text setting.key) value =
      row (Function.update values setting value) ++ foreign := by
  cases setting with
  | _ => rfl

/-- What no setting is goes behind the settings. -/
theorem put_row_of_unknown {key : String} (unknown : key ∉ knownKeys) (value : Value) :
    (row values ++ foreign).put (.text key) value =
      row values ++ foreign.put (.text key) value := by
  have apart (setting : Setting) : Value.sameKey (.text setting.key) (.text key) = false := by
    refine beq_eq_false_iff_ne.mpr ?_
    rintro rfl
    exact unknown (List.mem_map_of_mem setting.mem_all)
  rw [row]
  induction Setting.all with
  | nil => rfl
  | cons setting rest ih =>
    rw [List.map_cons, List.cons_append, Entries.put, apart, if_neg nofun, ih]
    rfl

theorem mem_keys_put {entries : Entries} {key : String} {other value : Value} :
    other ∈ (entries.put (.text key) value).map Prod.fst ↔
      other ∈ entries.map Prod.fst ∨ other = .text key := by
  induction entries with
  | nil => simp [Entries.put]
  | cons entry rest ih =>
    rw [Entries.put]
    split
    · rename_i same
      have here : entry.1 = .text key :=
        Value.eq_text_of_text? (Value.text?_of_sameKey same)
      simp only [List.map_cons, List.mem_cons, here]
      tauto
    · simp only [List.map_cons, List.mem_cons, ih, or_assoc]

theorem Foreign.put (isForeign : Foreign foreign) {key : String} (unknown : key ∉ knownKeys)
    (value : Value) : Foreign (foreign.put (.text key) value) := by
  intro entry member
  rcases mem_keys_put.mp (List.mem_map_of_mem member) with old | new
  · obtain ⟨known, there, same⟩ := List.mem_map.mp old
    rw [← same]
    exact isForeign known there
  · exact ⟨key, unknown, new⟩

theorem mem_knownKeys_iff {key : String} :
    key ∈ knownKeys ↔ ∃ setting : Setting, setting.key = key := by
  rw [Setting.knownKeys_eq, List.mem_map]
  exact exists_congr fun setting => and_iff_right setting.mem_all

/-- What a row becomes when values are given: the given ones count. -/
def overlay (values : Setting → Value) (given : Entries) : Setting → Value :=
  fun setting => (given.find? setting.key).getD (values setting)

theorem overlay_cons (values : Setting → Value) (setting : Setting) (value : Value)
    (rest : Entries) :
    overlay values ((.text setting.key, value) :: rest) =
      overlay (Function.update values setting value) rest := by
  funext other
  rw [overlay, overlay, Entries.find?_cons]
  cases Entries.find? rest other.key with
  | some later => rfl
  | none =>
    by_cases same : other = setting
    · subst same
      simp [Value.text?]
    · have apart : setting.key ≠ other.key := fun equal => same (Setting.key_injective equal).symm
      simp [Value.text?, same, apart]

theorem overlay_cons_of_unknown (values : Setting → Value) {key : String}
    (unknown : key ∉ knownKeys) (value : Value) (rest : Entries) :
    overlay values ((.text key, value) :: rest) = overlay values rest := by
  funext other
  have apart : key ≠ other.key := fun equal => unknown (mem_knownKeys_iff.mpr ⟨other, equal.symm⟩)
  rw [overlay, overlay, Entries.find?_cons]
  cases Entries.find? rest other.key with
  | some later => rfl
  | none => simp [Value.text?, apart]

/-- Writing over a row changes the settings that are given and collects what no setting is. -/
theorem update_row (textKeys : given.TextKeys) (values : Setting → Value)
    (isForeign : Foreign foreign) :
    ∃ more, Foreign more ∧
      (row values ++ foreign).update given = row (overlay values given) ++ more ∧
      ∀ key ∉ knownKeys, .text key ∈ more.map Prod.fst ↔
        .text key ∈ foreign.map Prod.fst ∨ .text key ∈ given.map Prod.fst := by
  -- each entry changes either the row or what stands behind it, so both go along
  induction given generalizing values foreign with
  | nil => exact ⟨foreign, isForeign, rfl, fun key _ => by simp⟩
  | cons entry rest ih =>
    obtain ⟨first, value⟩ := entry
    obtain ⟨key, rfl⟩ := textKeys _ List.mem_cons_self
    have rest_textKeys : Entries.TextKeys rest :=
      fun other member => textKeys other (List.mem_cons_of_mem _ member)
    rw [Entries.update, List.foldl_cons, ← Entries.update]
    by_cases known : key ∈ knownKeys
    · obtain ⟨setting, rfl⟩ := mem_knownKeys_iff.mp known
      obtain ⟨more, isForeign', updated, keys⟩ :=
        ih rest_textKeys (Function.update values setting value) isForeign
      refine ⟨more, isForeign', ?_, fun other unknown => ?_⟩
      · rw [put_row, overlay_cons]
        exact updated
      · have apart : other ≠ setting.key := fun same => unknown (same ▸ known)
        rw [keys other unknown, List.map_cons, List.mem_cons]
        simp [apart]
    · obtain ⟨more, isForeign', updated, keys⟩ :=
        ih rest_textKeys values (isForeign.put known value)
      refine ⟨more, isForeign', ?_, fun other unknown => ?_⟩
      · rw [put_row_of_unknown known, overlay_cons_of_unknown values known]
        exact updated
      · rw [keys other unknown, mem_keys_put, List.map_cons, List.mem_cons, or_assoc]

end Config

end Chip8
