/-
  EventEnvelope.Settings
  ──────────────────────
  **Switches from the environment, read once.**

  A flag is on exactly when its variable spells `true` in any case; one that is not set has a
  default.  The settings of a process are read when they are first asked for and kept until
  they are reset (`Settings.Cache`).
-/
import EventEnvelope.OrderedMap
import EventEnvelope.Text.UpperCase
import EventEnvelope.Journal

namespace EventEnvelope

/-- Variables and their values. -/
abbrev Environment := OrderedMap Text Text

/-- The settings of the adapter. -/
structure Settings where
  /-- Remove every double quote from the bodies of gateway responses. -/
  stripBodyQuotes : Bool := true
  /-- Let payloads that are not JSON through as they are. -/
  lenientParse : Bool := false
  /-- Log incoming payloads. -/
  logPayloads : Bool := true
  /-- Name of the least level that the entry adapter logs. -/
  logLevel : Text := "INFO"
deriving DecidableEq

namespace Settings

/-- The variable is set to some case variant of `true`, or is not set and on by default. -/
def flag (env : Environment) (name : Text) (default : Bool) : Bool :=
  match env.get? name with
  | some value => value.map CodePoint.toLowerAscii == Text.ofString "true"
  | none => default

/-- The settings that an environment gives. -/
def ofEnvironment (env : Environment) : Settings where
  stripBodyQuotes := flag env "EVENT_ADAPTER_STRIP_BODY_QUOTES" true
  lenientParse := flag env "EVENT_ADAPTER_LENIENT_PARSE" false
  logPayloads := flag env "EVENT_ADAPTER_LOG_PAYLOADS" true
  logLevel := Text.upper ((env.get? "LOG_LEVEL").getD "INFO")

/-- An environment and the settings read from an earlier one, if any. -/
structure Cache where
  environment : Environment
  kept : Option Settings

namespace Cache

/-- Set a variable. -/
def setVariable (c : Cache) (name value : Text) : Cache :=
  { c with environment := c.environment.insert name value }

/-- Forget a variable. -/
def unsetVariable (c : Cache) (name : Text) : Cache :=
  { c with environment := c.environment.erase name }

/-- Forget the settings, not the variables. -/
def reset (c : Cache) : Cache := { c with kept := none }

/-- The settings in use: those kept, or else those of the environment, which are kept from now
on. -/
def get (c : Cache) : Settings × Cache :=
  match c.kept with
  | some settings => (settings, c)
  | none =>
      let settings := ofEnvironment c.environment
      (settings, { c with kept := some settings })

end Cache

end Settings

end EventEnvelope
