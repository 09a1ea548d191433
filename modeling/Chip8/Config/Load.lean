/-
# Loading configurations

A configuration is loaded from nothing, from a mapping, or from the document in
a file. Settings that the mapping does not give keep their defaults. Everything
given is converted first, then the limits are checked, and last the unknown keys
are told. The first thing wrong is the answer.

How the bytes of a file make a document is not decided here. A parser is given,
and all that matters of it is which document it finds in a file, or which reason
it gives for finding none.
-/

import Chip8.Config.Basic
import Chip8.Config.Failure

namespace Chip8

/-- What makes a document of the bytes of a file, or tells why they make none. -/
abbrev Parser := List Byte → Except String Value

namespace Config

/-- Convert the value of a key; a key that is not given has a default. -/
def setting {α : Type} (entries : Entries) (key : String) (default : α)
    (convert : Value → Except ConversionFault α) : Except Failure α :=
  match entries.find? key with
  | none => .ok default
  | some value =>
    match convert value with
    | .ok converted => .ok converted
    | .error fault => .error (.badType fault)

/-- Tell the unknown keys of a mapping, if it has any. -/
def checkKeys (entries : Entries) : Except Failure Unit :=
  match UnknownKeys.ofEntries knownKeys entries with
  | .none => .ok ()
  | .texts keys => .error (.unknownKeys keys)
  | .notText kind => .error (.keyNotText kind)
  | .unordered left right => .error (.keysUnordered left right)

/-- The configuration of a mapping. -/
def ofEntries (entries : Entries) : Except Failure Config := do
  let tickLimit ← setting entries "tick_limit" 100000 Value.toInteger
  let pauseTick ← setting entries "pause_tick" none Value.toInteger?
  let stepsPerTimerTick ← setting entries "steps_per_timer_tick" 10 Value.toInteger
  let seed ← setting entries "rng_seed" none Value.toInteger?
  let shiftFlagFromLowBit ← setting entries "shift_flag_lsb" false Value.toBoolean
  let loadFont ← setting entries "load_font" true Value.toBoolean
  let quiet ← setting entries "lenient_log" false Value.toBoolean
  if positive : 0 < tickLimit then
    if nonneg : ∀ tick ∈ pauseTick, 0 ≤ tick then
      if positive' : 0 < stepsPerTimerTick then
        checkKeys entries
        return ⟨tickLimit, pauseTick, stepsPerTimerTick, shiftFlagFromLowBit, loadFont, seed,
          quiet, positive, nonneg, positive'⟩
      else .error .stepsPerTimerTickNotPositive
    else .error .pauseTickNegative
  else .error .tickLimitNotPositive

section Written

variable {entries : Entries} {key : String}

theorem setting_integer (value default : Int)
    (found : entries.find? key = some (.integer value)) :
    setting entries key default Value.toInteger = .ok value := by
  rw [setting, found]
  rfl

theorem setting_boolean (value default : Bool)
    (found : entries.find? key = some (.boolean value)) :
    setting entries key default Value.toBoolean = .ok value := by
  rw [setting, found]
  rfl

theorem setting_optionalInteger (value default : Option Int)
    (found : entries.find? key = some (optionalInteger value)) :
    setting entries key default Value.toInteger? = .ok value := by
  rw [setting, found]
  cases value with
  | none => rfl
  | some value => rfl

end Written

/-- A configuration written out is read back. -/
theorem ofEntries_toEntries (config : Config) : ofEntries config.toEntries = .ok config := by
  have known : checkKeys config.toEntries = .ok () := rfl
  rw [ofEntries, setting_integer config.tickLimit _ rfl,
    setting_optionalInteger config.pauseTick _ rfl,
    setting_integer config.stepsPerTimerTick _ rfl,
    setting_optionalInteger config.seed _ rfl,
    setting_boolean config.shiftFlagFromLowBit _ rfl,
    setting_boolean config.loadFont _ rfl,
    setting_boolean config.quiet _ rfl]
  simp only [bind, Except.bind]
  rw [dif_pos config.tickLimit_pos, dif_pos config.pauseTick_nonneg,
    dif_pos config.stepsPerTimerTick_pos, known]
  rfl

/-- The configuration of a document. A document that counts as false gives nothing. -/
def ofDocument (path : String) (document : Value) : Except Failure Config :=
  if document.isTrue then
    match document with
    | .mapping entries => ofEntries entries
    | _ => .error (.notAMapping path)
  else ofEntries []

/-- The configuration in a file. -/
def ofFile (parser : Parser) (directory : Directory) (path : String) : Except Failure Config :=
  match directory path with
  | .missing => .error (.fileNotFound path)
  | .unreachable reason => .error (.unreachablePath path reason)
  | .directory => .error (.unreadableFile path (Files.isADirectory path))
  | .file bytes =>
    match parser bytes with
    | .ok document => ofDocument path document
    | .error reason => .error (.unreadableFile path reason)

/-- Load a configuration from nothing, a mapping, or the name of a file. -/
def load (parser : Parser) (directory : Directory) : Value → Except Failure Config
  | .null => ofEntries []
  | .mapping entries => ofEntries entries
  | .text path => ofFile parser directory path
  | _ => .error .unsupportedInput

/-- What a caller may give for a configuration, as a value: nothing, or a mapping. -/
def given : Option Entries → Value
  | none => .null
  | some entries => .mapping entries

end Config

end Chip8
