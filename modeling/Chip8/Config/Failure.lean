/-
# Why a configuration is refused

A configuration is refused for the first thing found wrong with it. Nearly all
of these are complaints, which callers expect and show. The two about keys that
are no texts and the one about a path that cannot be looked up are not: callers
that handle complaints do not handle them.
-/

import Chip8.Config.Convert
import Chip8.Config.Key
import Chip8.Files

namespace Chip8.Config

/-- The first thing wrong with a configuration. -/
inductive Failure where
  /-- It is neither nothing, nor a mapping, nor the name of a file. -/
  | unsupportedInput
  /-- There is no file of that name. -/
  | fileNotFound (path : String)
  /-- The path cannot be looked up, for this reason. -/
  | unreachablePath (path reason : String)
  /-- The file cannot be read as a document, for this reason. -/
  | unreadableFile (path reason : String)
  /-- The document is no mapping. -/
  | notAMapping (path : String)
  /-- A setting cannot be converted. -/
  | badType (fault : ConversionFault)
  /-- The tick limit is zero or negative. -/
  | tickLimitNotPositive
  /-- The tick to pause at is negative. -/
  | pauseTickNegative
  /-- The steps for each timer tick are zero or negative. -/
  | stepsPerTimerTickNotPositive
  /-- There are keys that no setting has. -/
  | unknownKeys (keys : List String)
  /-- The first unknown key is no text. -/
  | keyNotText (kind : String)
  /-- The unknown keys have no order. -/
  | keysUnordered (left right : String)
  deriving DecidableEq, Repr

namespace Failure

/-- The text of a failure. -/
def message : Failure → String
  | unsupportedInput => "Unsupported config input"
  | fileNotFound path => "Config file not found: " ++ path
  | unreachablePath path reason => reason ++ ": " ++ Text.quoted (Files.tidy path)
  | unreadableFile path reason => "Failed to load config file " ++ path ++ ": " ++ reason
  | notAMapping path => "Config file " ++ path ++ " does not contain a mapping"
  | badType fault => "Bad types in config: " ++ fault.message
  | tickLimitNotPositive => "tick_limit must be positive"
  | pauseTickNegative => "pause_tick must be non-negative or null"
  | stepsPerTimerTickNotPositive => "steps_per_timer_tick must be positive"
  | unknownKeys keys => "Unknown config keys: " ++ ", ".intercalate keys
  | keyNotText kind => "sequence item 0: expected str instance, " ++ kind ++ " found"
  | keysUnordered left right =>
    "'<' not supported between instances of " ++ Text.quoted left ++ " and " ++ Text.quoted right

/-- Whether a failure is a complaint that callers expect. -/
def isComplaint : Failure → Bool
  | unreachablePath _ _ | keyNotText _ | keysUnordered _ _ => false
  | _ => true

end Failure

end Chip8.Config
