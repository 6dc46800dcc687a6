import ViewEngine.Json.Basic
import ViewEngine.Engine.World
import ViewEngine.Number.Layout

/-!
Writing engine values and trace entries as JSON: finite 64-bit floats as numbers, other numbers and
typed data as `{"$t": type, "v": text}`, lists as arrays, props and plain mappings as objects,
functions by their type alone.
-/

namespace ViewEngine

namespace Scenario

open Number

/-- A typed value: its type and its text. -/
def typedJson (t : String) (v : Json) : Json := .obj [("$t", .str t), ("v", v)]

/-- A JSON number holding a finite 64-bit float, or the typed text of a NaN or an infinity. -/
def floatJson (x : Binary64) : Json :=
  match x.read with
  | .finite _ _ _ => .num x.dataText
  | _ => typedJson "f64" (.str x.plainText)

mutual
/-- A value as JSON. -/
def encode : Value → Json
  | .null => .null
  | .bool b => .bool b
  | .str s => .str s
  | .f64 x => floatJson x
  | .f32 x => typedJson "f32" (.str x.generalText)
  | .int k n => typedJson k.name (.str (toString n))
  | .bytes data => typedJson "bytes" (.arr (data.map (fun b => .num (toString b.toNat))))
  | .list items => .arr (encodeItems items)
  | .node items => typedJson "node" (.arr (encodeItems items))
  | .props none => .null
  | .props (some fields) => .obj (encodeFields fields)
  | .map none => .null
  | .map (some fields) => .obj (encodeFields fields)
  | .textMap fields => typedJson "smap" (.obj (fields.map (fun f => (f.1, Json.str f.2))))
  | .texts items => typedJson "strs" (.arr (items.map Json.str))
  | .error message => typedJson "error" (.str message)
  | .stringer shown => typedJson "stringer" (.str shown)
  | .component c form => .obj [("$t", .str (Value.component c form).typeName)]
  | .routine r => .obj [("$t", .str r.typeName)]
  | v => typedJson v.typeName (.str v.show)

/-- List items as JSON. -/
def encodeItems : List Value → List Json
  | [] => []
  | v :: rest => encode v :: encodeItems rest

/-- Fields as JSON members. -/
def encodeFields : List (String × Value) → List (String × Json)
  | [] => []
  | (k, v) :: rest => (k, encode v) :: encodeFields rest
end

/-- A failure as `{"error": kind, "message": text}`. -/
def failureJson (f : Failure) : Json :=
  .obj [("error", .str f.kind.name), ("message", .str f.message)]

/-- The failure members of an answer. -/
def failureMembers (f : Failure) : List (String × Json) :=
  [("error", .str f.kind.name), ("message", .str f.message)]

/-- A failure or nothing. -/
def optionalFailure : Option Failure → Json
  | some f => failureJson f
  | none => .null

/-- A list of texts as a JSON array. -/
def textsJson (items : List String) : Json := .arr (items.map Json.str)

/-- A trace entry as JSON. -/
def noteJson : Note → Json
  | .mark text => .str text
  | .log args => .obj [("log", .arr (args.map encode))]
  | .newState keys => .obj [("newstate", textsJson keys)]
  | .recv id topic data =>
    .obj ([("recv", encode id), ("data", encode data)] ++
      (match topic with
       | some t => [("topic", Json.str t)]
       | none => []))
  | .triggerFailed name f => .obj [("trigger", .str name), ("err", failureJson f)]
  | .fakeEmit topic data => .obj [("fake_emit", .str topic), ("data", encode data)]
  | .snapshot fields keys => .obj [("state", .obj (encodeFields fields)), ("keys", textsJson keys)]
  | .names names => .obj [("names", textsJson names)]
  | .listener id type target detail =>
    .obj [("listener", encode id), ("type", .str type), ("target", .str target), ("detail", encode detail)]

/-- A trace as a JSON array. -/
def traceJson (notes : List Note) : Json := .arr (notes.map noteJson)

/-- A count as a JSON number. -/
def natJson (n : Nat) : Json := .num (toString n)

/-- An integer as a JSON number. -/
def intJson (n : Int) : Json := .num (toString n)

/-- The counters of a renderer as JSON. -/
def metricsJson (m : Metrics) : Json :=
  .obj [("setups", natJson m.setups),
    ("renders", .obj (m.renders.map (fun e => (e.1, natJson e.2)))),
    ("events", .obj (m.events.map (fun e => (e.1, natJson e.2)))),
    ("mount_points", intJson m.mountPoints)]

end Scenario

end ViewEngine
