import ViewEngine.Config.Basic
import ViewEngine.Yaml.Decode
import ViewEngine.Json.Decode

/-!
Loading settings from a file over the defaults. A file whose name ends in `.json` (in any case) is
read as JSON, any other as YAML. Fields the file sets replace the defaults, even when reading stops
part way; the settings read so far come back beside the error. Loaded settings are validated.
-/

namespace ViewEngine

/-- The last element of a slash-separated path, trailing slashes dropped. -/
def baseName (path : String) : String :=
  let parts := (path.splitOn "/").filter (· != "")
  match parts.getLast? with
  | some last => last
  | none => if path.isEmpty then "." else "/"

/-- The extension of a path: its last element from the last dot on; empty when there is none. -/
def extension (path : String) : String :=
  let last := (path.splitOn "/").getLast?.getD ""
  match last.splitOn "." with
  | [] | [_] => ""
  | parts => "." ++ parts.getLast?.getD ""

namespace Settings

/-- Reads the text of a settings file named `path` over the defaults: the settings read, and why
reading stopped, if it did. -/
def read (path text : String) : Settings × Option SettingsError :=
  let file := baseName path
  if (extension path).toLower == ".json" then
    match Json.parse text with
    | .error e => (default, some (.unreadable file e.message))
    | .ok j =>
      let (updates, fault) := Json.store place j
      (default.updateAll updates, fault.map (SettingsError.unreadable file))
  else
    let (_, updates, fault) := Yaml.decodeText text place
    (default.updateAll updates, fault.map fun f => .unreadable file f.message)

/-- Loads settings from a file named `path` with the given contents (`none` when no such file
exists): the defaults for an empty path or a missing file; otherwise the file read over the
defaults, then validated. -/
def load (path : String) (contents : Option String) : Settings × Option SettingsError :=
  if path.isEmpty then (default, none)
  else
    match contents with
    | none => (default, none)
    | some text =>
      match read path text with
      | (s, some e) => (s, some e)
      | (s, none) =>
        match s.validate with
        | .error e => (s, some e)
        | .ok () => (s, none)

end Settings

end ViewEngine
