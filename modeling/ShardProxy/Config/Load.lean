/-
# Loading a configuration

A configuration comes from a JSON file or from the defaults; then two variables
of the environment may replace the name and the number of workers.  The number
is a positive 64-bit number in decimal digits, blanks around it and a plus sign
before it aside.
-/

import ShardProxy.Config.Decode
import ShardProxy.Text.Blank

namespace ShardProxy

/-- Why there is no configuration. -/
inductive ConfigError where
  /-- The file could not be read. -/
  | unreadable (path reason : String)
  /-- The text is no configuration. -/
  | malformed
  /-- A variable of the environment has a value that it must not have. -/
  | invalidValue (variableName value : String)
  deriving Repr, DecidableEq

/-- The wording of a configuration error. -/
def ConfigError.message : ConfigError → String
  | .unreadable path reason => s!"Failed to read config file {path}: {reason}"
  | .malformed => "Malformed config"
  | .invalidValue variableName value => s!"Invalid value for {variableName}: {value}"

/-- The variables of the environment that are set. -/
abbrev Environment := String → Option String

namespace Config

/-- The variable that replaces the name. -/
def nameVariable : String := "STRATA_PROXY_ID"

/-- The variable that replaces the number of workers. -/
def workersVariable : String := "STRATA_MAX_WORKERS"

/-- Reads a number of workers from its digits. -/
def readCount? (digits : List Char) : Option Nat :=
  match Decimal.readDigits? digits with
  | some n => if 0 < n ∧ n < UInt64.size then some n else none
  | none => none

/-- Reads a number of workers as a variable gives it. -/
def readWorkers? (value : String) : Option Nat :=
  match Text.trim value.toList with
  | '+' :: digits => readCount? digits
  | digits => readCount? digits

/-- Replaces the name, if the environment says so. -/
def overrideName (environment : Environment) (config : Config) : Config :=
  match environment nameVariable with
  | none => config
  | some name => { config with name := some name }

/-- Replaces the number of workers, if the environment says so. -/
def overrideWorkers (environment : Environment) (config : Config) : Except ConfigError Config :=
  match environment workersVariable with
  | none => .ok config
  | some value =>
    match readWorkers? value with
    | none => .error (.invalidValue workersVariable value)
    | some n => .ok { config with maxWorkers := some n }

/-- Replaces what the environment says. -/
def withOverrides (config : Config) (environment : Environment) : Except ConfigError Config :=
  (config.overrideName environment).overrideWorkers environment

/-- Reads a configuration from its JSON text. -/
def ofText (json : String) : Except ConfigError Config :=
  match ofJson? json with
  | none => .error .malformed
  | some config => .ok config

/-- Loads a configuration from a file: its path, and its text or why that could not be
read. -/
def load (path : String) (contents : Except String String) (environment : Environment) :
    Except ConfigError Config :=
  match contents with
  | .error reason => .error (.unreadable path reason)
  | .ok json =>
    match ofText json with
    | .error e => .error e
    | .ok config => config.withOverrides environment

end Config

end ShardProxy
