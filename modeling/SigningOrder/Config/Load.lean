/-
Loading a configuration. A text must be in order, must give a configuration,
and the configuration must be valid; a file must be there and must be a text.
-/
import SigningOrder.Config.Validation
import SigningOrder.Toml.Parse

namespace SigningOrder

/-- Why no configuration is loaded. -/
inductive ConfigError where
  | validation (fault : ConfigFault)
  /-- The text does not give a configuration. -/
  | parse
  /-- The file is not there, or is no text. -/
  | unreadable
  deriving DecidableEq, Repr

namespace SigningConfig

/-- A valid configuration, or what is wrong with it. -/
def checked (config : SigningConfig) : Except ConfigError SigningConfig :=
  match config.validate with
  | .ok () => .ok config
  | .error fault => .error (.validation fault)

/-- The configuration of a text. -/
def ofText (text : String) : Except ConfigError SigningConfig :=
  match Toml.parse text with
  | none => .error .parse
  | some d =>
    match format.read d with
    | .ok config => config.checked
    | .error _ => .error .parse

/-- The configuration in the contents of a file, which may be missing. -/
def ofContents (contents : Option Bytes) : Except ConfigError SigningConfig :=
  match contents.bind Format.textOfBytes? with
  | none => .error .unreadable
  | some text => ofText text

end SigningConfig

end SigningOrder
