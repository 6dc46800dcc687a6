import ViewEngine.Capability
import ViewEngine.Failure
import ViewEngine.Value.Place

/-!
The settings of the command line: the flavor and rendering options, the log level, the address to
listen on, the signing key and the bus bridge. Settings are valid when the flavor is a bundled
one and the log level is a level's name (in lower or upper case, or in any case once lowered; the
empty name is `info`). The renderer takes the flavor and a logger, and one option more for each of
escaping and clearing on update.
-/

namespace ViewEngine

/-- The levels of logging, least severe first. -/
inductive LogLevel where
  | debug | info | warn | error | dpanic | panic | fatal
  deriving Repr, Inhabited, DecidableEq

/-- The name of a level. -/
def LogLevel.name : LogLevel → String
  | .debug => "debug"
  | .info => "info"
  | .warn => "warn"
  | .error => "error"
  | .dpanic => "dpanic"
  | .panic => "panic"
  | .fatal => "fatal"

/-- The levels. -/
def LogLevel.all : List LogLevel := [.debug, .info, .warn, .error, .dpanic, .panic, .fatal]

/-- The level a text names exactly: its name in lower or upper case; the empty text is `info`. -/
def LogLevel.ofExactName? (s : String) : Option LogLevel :=
  if s.isEmpty then some .info
  else LogLevel.all.find? fun l => l.name == s || l.name.toUpper == s

/-- The level a text names, taken as it is or else lowered. -/
def LogLevel.parse? (s : String) : Option LogLevel :=
  (LogLevel.ofExactName? s).orElse fun _ => LogLevel.ofExactName? s.toLower

/-- Where the bus bridge connects: its address (none when empty), its channel, and whether its
messages are sealed. -/
structure BridgeSettings where
  addr : String
  channel : String
  sealed : Bool
  deriving Repr, Inhabited

/-- The settings of the command line. -/
structure Settings where
  flavor : String
  escape : Bool
  clearOnUpdate : Bool
  logLevel : String
  listen : String
  signingKey : String
  bridge : BridgeSettings
  deriving Repr, Inhabited

/-- Why settings cannot be used. -/
inductive SettingsError where
  /-- A settings file that could not be read (its base name) and why. -/
  | unreadable (file : String) (reason : String)
  /-- The flavor is not a bundled one. -/
  | unknownFlavor (name : String)
  /-- The log level names no level. -/
  | unknownLevel (text : String)
  deriving Repr, Inhabited

/-- The message of a settings error. -/
def SettingsError.message : SettingsError → String
  | .unreadable file reason => "failed to parse " ++ file ++ ": " ++ reason
  | .unknownFlavor name => "config: " ++ (Failure.unknownFlavor name).message
  | .unknownLevel text => "config: log_level: unrecognized level: " ++ Text.quote text

/-- The kind of a settings error. -/
def SettingsError.kind : SettingsError → FailureKind
  | .unknownFlavor _ => .unknownFlavor
  | _ => .error

namespace Settings

/-- The settings used when no file gives any: the safe flavor with escaping, level `info`,
port 8080 and the bus channel `rigor:bus`. -/
def default : Settings :=
  ⟨Flavor.safe.name, true, false, "info", ":8080", "", ⟨"", "rigor:bus", false⟩⟩

/-- The fields of the settings record, by the names files use. -/
def place : Place :=
  .record "config.Config"
    [("flavor", .text), ("escape", .flag), ("clear_on_update", .flag), ("log_level", .text),
     ("listen", .text), ("signing_key", .text),
     ("redis", .record "config.RedisConfig" [("addr", .text), ("channel", .text), ("sealed", .flag)])]

/-- Sets one field from a decoded file; an update of no field leaves the settings alone. -/
def update (s : Settings) : Update → Settings
  | (["flavor"], .str v) => { s with flavor := v }
  | (["escape"], .bool v) => { s with escape := v }
  | (["clear_on_update"], .bool v) => { s with clearOnUpdate := v }
  | (["log_level"], .str v) => { s with logLevel := v }
  | (["listen"], .str v) => { s with listen := v }
  | (["signing_key"], .str v) => { s with signingKey := v }
  | (["redis", "addr"], .str v) => { s with bridge := { s.bridge with addr := v } }
  | (["redis", "channel"], .str v) => { s with bridge := { s.bridge with channel := v } }
  | (["redis", "sealed"], .bool v) => { s with bridge := { s.bridge with sealed := v } }
  | _ => s

/-- Sets the fields of decoded updates, in order. -/
def updateAll (s : Settings) (updates : Array Update) : Settings := updates.foldl update s

/-- Checks the flavor, then the log level. -/
def validate (s : Settings) : Except SettingsError Unit := do
  match Flavor.byName s.flavor with
  | .error _ => throw (.unknownFlavor s.flavor)
  | .ok _ => pure ()
  if (LogLevel.parse? s.logLevel).isNone then throw (.unknownLevel s.logLevel)

/-- The log level, `info` when the text names none. -/
def level (s : Settings) : LogLevel := (LogLevel.parse? s.logLevel).getD .info

/-- How many options the renderer takes: the flavor and the logger, and one for each of escaping
and clearing on update. -/
def optionCount (s : Settings) : Except Failure Nat := do
  let _ ← Flavor.byName s.flavor
  pure (2 + (if s.escape then 1 else 0) + (if s.clearOnUpdate then 1 else 0))

end Settings

end ViewEngine
