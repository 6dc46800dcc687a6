import ViewEngine.Scenario.Setup

/-!
Props decoding scenarios: props decoded into a counter's props or into a record with a field of
every kind, reported field by field.
-/

namespace ViewEngine

namespace Scenario

/-- The record with a field of every kind. -/
def everyKindShape : Shape :=
  .record [("i", .int .int), ("i8", .int .int8), ("u", .int .uint), ("f", .float64), ("f32", .float32),
    ("b", .bool), ("s", .text), ("l", .list .text), ("n", .list (.int .int)), ("m", .map (.int .int)),
    ("ms", .map .text), ("p", .ref (.int .int)), ("a", .any), ("Name", .text),
    ("sub", .record [("x", .int .int), ("y", .text)])]

mutual
/-- A decoded value as JSON; lists of texts and mappings of texts keep their typed form. -/
def decodedJson : Decoded → Json
  | .bool b => .bool b
  | .text s => .str s
  | .int k n => encode (.int k n)
  | .float64 x => encode (.f64 x)
  | .float32 x => encode (.f32 x)
  | .any v => encode v
  | .list none => .null
  | .list (some items) => .arr (decodedItems items)
  | .map none => .null
  | .map (some entries) => .obj (decodedEntries entries)
  | .ref none => .null
  | .ref (some d) => decodedJson d
  | .record fields => .obj (decodedEntries fields)

/-- Decoded items as JSON. -/
def decodedItems : List Decoded → List Json
  | [] => []
  | d :: rest => decodedJson d :: decodedItems rest

/-- Decoded entries as JSON members, keys in lower case as reported. -/
def decodedEntries : List (String × Decoded) → List (String × Json)
  | [] => []
  | (k, d) :: rest => (Text.toLowerCase k, decodedJson d) :: decodedEntries rest
end

/-- A mapping of texts as its typed JSON form. -/
def textMapJson : Decoded → Json
  | .map (some entries) => typedJson "smap" (.obj (entries.map (fun e => (e.1, match e.2 with
    | .text s => Json.str s
    | _ => Json.null))))
  | _ => .null

/-- The report of a decoded record: each field as JSON, the mapping of texts in its typed form. -/
def recordJson : Decoded → Json
  | .record fields => .obj (fields.map (fun f =>
    if f.1 == "ms" then ("ms", textMapJson f.2) else (Text.toLowerCase f.1, decodedJson f.2)))
  | d => decodedJson d

/-- Decodes props into a target and reports the value and the failure, if any. -/
def decodePropsAnswer (j : Json) : Json :=
  let target := textFieldOr j "target" ""
  if target == "nonpointer" || target == "nil" then
    .obj [("err", .obj [("error", .str "Error"), ("message", .str "rigor: props decoder: result must be a pointer")])]
  else
    match (readValue ((j.get? "props").getD .null)).run Program.linked with
    | .error message => driverError message
    | .ok (v, _) =>
      let props : Props := match v with
        | .props p => p
        | _ => none
      let shape := if target == "counter" then counterShape else everyKindShape
      let out := decodeProps weakDecode shape props
      .obj ([("value", recordJson out.value)] ++
        (match out.failure with
         | some message => [("err", Json.obj [("error", .str "Error"), ("message", .str message)])]
         | none => []))

end Scenario

end ViewEngine
