import ViewEngine.Scenario.Mount
import ViewEngine.Scenario.Document
import ViewEngine.Scenario.Decoding
import ViewEngine.Scenario.Tokens
import ViewEngine.Scenario.Settings
import ViewEngine.Scenario.CommandLine

/-!
Answering a scenario: one JSON document in, naming its operation, one JSON document out.
-/

namespace ViewEngine

namespace Scenario

/-- The answer to a scenario document. -/
def answer (j : Json) : Json :=
  match textFieldOr j "op" "" with
  | "render" => renderAnswer j
  | "test_helpers" => testHelpersAnswer j
  | "mount" => mountAnswer j
  | "caps" => capsAnswer j
  | "flavor" => flavorAnswer j
  | "state" => stateAnswer j
  | "bus" => busAnswer j
  | "dom" => documentAnswer j
  | "decode_props" => decodePropsAnswer j
  | "sign" => signAnswer j
  | "verify" => readTokenAnswer false j
  | "open" => readTokenAnswer true j
  | "seal_roundtrip" => sealRoundTripAnswer j
  | "config" => settingsAnswer j
  | "validate" => validateAnswer j
  | "cli" => commandLineAnswer j
  | "escape" => .obj [("value", .str (Text.escape (textFieldOr j "s" "")))]
  | "welcome" => .obj [("value", .str welcome), ("version", .str version)]
  | other => driverError ("unknown op " ++ other)

/-- The answer to one line of scenario text. -/
def answerLine (line : String) : String :=
  match Json.parse line with
  | .ok j => (answer j).write
  | .error e => (driverError e.message).write

end Scenario

end ViewEngine
