import ViewEngine.Scenario.Setup
import ViewEngine.Token.Codec

/-!
Scenarios on tokens: signing a value or an envelope, verifying and opening tokens into a target
type, and sealing a value to open it again.
-/

namespace ViewEngine

namespace Scenario

open Token MessagePack

/-- The members of a token error: its kind, its text, the engine's text for it, and whether the
engine counts it as a decoding error. -/
def tokenErrorMembers (e : TokenError) : List (String × Json) :=
  [("error", .str e.kind.name), ("message", .str e.message), ("rigor", .str e.wrap.2),
   ("is_decode", .bool e.wrap.1.isDecode)]

/-- The codec of the scenario's key: a text's UTF-8 bytes, or a byte string. -/
def codecOf (j : Json) : Reading Codec := do
  match ← readValue ((j.get? "key").getD (.str "")) with
  | .str s => pure (Codec.ofKey s.toUTF8.toList)
  | .bytes b => pure (Codec.ofKey b)
  | _ => refuse "key must be a text or bytes"

/-- What a scenario packs: a value, or an envelope. -/
inductive Payload where
  | value (v : Value)
  | envelope (e : Envelope)

/-- Reads the payload of a scenario. -/
def payloadOf (j : Json) : Reading Payload := do
  match j.get? "envelope" with
  | some e => do
    let d ← readValue ((e.get? "d").getD .null)
    pure (.envelope ⟨textFieldOr e "o" "", textFieldOr e "t" "", d⟩)
  | none => pure (.value (← readValue ((j.get? "value").getD .null)))

/-- The token of a payload. -/
def Payload.encode (c : Codec) (sealed : Bool) (nonce : Bytes) : Payload → Except TokenError String
  | .value v => c.encode pack sealed nonce v
  | .envelope e => c.encode Envelope.pack sealed nonce e

/-- An envelope as JSON. -/
def envelopeJson (e : Envelope) : Json :=
  .obj [("o", .str e.origin), ("t", .str e.topic), ("d", encode e.data)]

/-- Decodes a token into a target type (`any`, `envelope` or `string`), answering the value or
the error. -/
def decodeAnswer (c : Codec) (sealed : Bool) (token target : String) : Except String (List (String × Json)) :=
  let answerOf {α : Type} (r : Except TokenError α) (toJson : α → Json) : List (String × Json) :=
    match r with
    | .ok v => [("value", toJson v)]
    | .error e => tokenErrorMembers e
  match target with
  | "any" => .ok (answerOf (c.decodeWith sealed token unpack) encode)
  | "envelope" => .ok (answerOf (c.decodeWith sealed token unpackEnvelope) envelopeJson)
  | "string" => .ok (answerOf (c.decodeWith sealed token unpackText) Json.str)
  | other => .error ("unknown target " ++ other)

/-- The nonce of sealed tokens made here: any nonce round-trips, and only the token's length is
reported, so a fixed one keeps answers reproducible. -/
def fixedNonce : Bytes := Bytes.zeros Codec.nonceLength

/-- Runs a reading of the scenario, answering a refusal as a driver error. -/
def withReading (r : Reading α) (k : α → Json) : Json :=
  match r.run' Program.linked with
  | .ok a => k a
  | .error message => driverError message

/-- Signs a value or an envelope. -/
def signAnswer (j : Json) : Json :=
  withReading (do pure (← codecOf j, ← payloadOf j)) fun (c, p) =>
    match p.encode c false [] with
    | .ok token => .obj [("token", .str token)]
    | .error e => .obj (tokenErrorMembers e)

/-- Verifies a signed token, or opens a sealed one, into the target type. -/
def readTokenAnswer (sealed : Bool) (j : Json) : Json :=
  withReading (codecOf j) fun c =>
    match decodeAnswer c sealed (textFieldOr j "token" "") (textFieldOr j "target" "any") with
    | .ok members => .obj members
    | .error message => driverError message

/-- Seals a value or an envelope and opens the token again; reports the token's length, and on
request what reading the same token as a signed one gives. -/
def sealRoundTripAnswer (j : Json) : Json :=
  withReading (do pure (← codecOf j, ← payloadOf j)) fun (c, p) =>
    match p.encode c true fixedNonce with
    | .error e => .obj [("error", .str "Error"), ("message", .str e.message)]
    | .ok token =>
      let target := textFieldOr j "target" "any"
      match decodeAnswer c true token target, decodeAnswer c false token target with
      | .ok opened, .ok signed =>
        let extra := if flagField j "as_signed" then [("as_signed", Json.obj signed)] else []
        .obj (opened ++ [("length", natJson token.length)] ++ extra)
      | .error message, _ | _, .error message => driverError message

end Scenario

end ViewEngine
