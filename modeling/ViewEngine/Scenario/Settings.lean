import ViewEngine.Scenario.Setup
import ViewEngine.Config.Load

/-!
Scenarios on settings: loading a settings file over the defaults, and validating the defaults with
some fields replaced. Answers show the settings, their log level, and either the error or the
renderer's option count.
-/

namespace ViewEngine

namespace Scenario

/-- Settings as JSON, with their effective log level. -/
def settingsJson (s : Settings) : Json :=
  .obj [("flavor", .str s.flavor), ("escape", .bool s.escape), ("clear_on_update", .bool s.clearOnUpdate),
    ("log_level", .str s.logLevel), ("listen", .str s.listen), ("signing_key", .str s.signingKey),
    ("redis", .obj [("addr", .str s.bridge.addr), ("channel", .str s.bridge.channel),
      ("sealed", .bool s.bridge.sealed)]),
    ("level", .str s.level.name)]

/-- A settings error as `{"error": kind, "message": text}`. -/
def settingsErrorJson (e : SettingsError) : Json :=
  .obj [("error", .str e.kind.name), ("message", .str e.message)]

/-- The renderer's option count, or why there is none. -/
def optionsMember (s : Settings) : String × Json :=
  match s.optionCount with
  | .ok n => ("options", natJson n)
  | .error f => ("options_err", failureJson f)

/-- The truth value of a member, or a default when absent. -/
def flagFieldOr (j : Json) (key : String) (fallback : Bool) : Bool :=
  match j.get? key with
  | some (.bool b) => b
  | _ => fallback

/-- Loads the settings file `name` holding `content` (no file when `content` is absent). -/
def settingsAnswer (j : Json) : Json :=
  let contents := match j.get? "content" with
    | some (.str c) => some c
    | _ => none
  let (s, err) := Settings.load (textFieldOr j "name" "") contents
  .obj ([("config", settingsJson s)] ++
    match err with
    | some e => [("err", settingsErrorJson e)]
    | none => [optionsMember s])

/-- Validates the default settings with the given fields replaced. -/
def validateAnswer (j : Json) : Json :=
  let d := Settings.default
  let s := { d with
    flavor := textFieldOr j "flavor" d.flavor
    logLevel := textFieldOr j "log_level" d.logLevel
    escape := flagFieldOr j "escape" d.escape
    clearOnUpdate := flagFieldOr j "clear_on_update" d.clearOnUpdate }
  let err := match s.validate with
    | .ok () => Json.null
    | .error e => settingsErrorJson e
  .obj [("config", settingsJson s), ("err", err), optionsMember s]

end Scenario

end ViewEngine
