import ViewEngine.Scenario.Setup
import ViewEngine.Engine.Api

/-!
Scenarios on the engine's records: capability sets and their typed accessors, flavors, state
records, and the topic bus.
-/

namespace ViewEngine

namespace Scenario

open Run

/-- The texts of an array member. -/
def textsOf (j : Json) (key : String) : List String :=
  (((j.get? key).bind Json.arr?).getD []).filterMap Json.str?

/-- Composes a capability set (from plugins, or the safe flavor with overrides) and reports its
names, which queried names it has, their types, and what exercising each named capability does. -/
def capsAnswer (j : Json) : Json :=
  let read : Reading (List Plugin) := do
    if j.has "overrides" then
      let extra ← match j.get? "overrides" with
        | some (.obj members) => do
          let fs ← fields (depthBound (.obj members)) members
          pure [Plugin.provide fs]
        | _ => pure [Plugin.provide []]
      pure (Flavor.safe.plugins ++ extra)
    else plugins ((j.get? "plugins").getD (.arr []))
  match read.run Program.linked with
  | .error message => driverError message
  | .ok (list, program) =>
    finish (do
      let caps ← compose list .none
      let set ← capset caps
      let query := textsOf j "query"
      let has := query.map (fun name => (name, Json.bool (set.has name)))
      let types := query.filterMap (fun name => (set.lookup? name).map (fun v => (name, Json.str v.typeName)))
      let _ ← takeTrace
      let mut calls : List Json := []
      for name in textsOf j "call" do
        let outcome ← tryCatch (do exercise caps name; pure none) (fun e =>
          match e with
          | .capability f => pure (some f)
          | .fail f => pure (some f)
          | .exhausted => throw .exhausted)
        let trace ← takeTrace
        calls := calls ++ [Json.obj ((match outcome with
          | some f => [("panic", failureJson f)]
          | none => []) ++ [("trace", traceJson trace)])]
      pure (.obj [("names", textsJson set.names), ("has", .obj has), ("types", .obj types),
        ("calls", .arr calls)])) (World.fresh program #[Renderer.default])

/-- The names of the capabilities a plugin list composes. -/
def capabilityNames (list : List Plugin) : Run (List String) := do
  pure (← capset (← compose list .none)).names

/-- A flavor as reported: name, plugin count and capability names. -/
def flavorJson (f : Flavor) : Run Json := do
  pure (.obj [("name", .str f.name), ("plugins", natJson f.plugins.length),
    ("caps", textsJson (← capabilityNames f.plugins))])

/-- Looks up a flavor by name (with extra plugins) and reports it beside the bundled flavors. -/
def flavorAnswer (j : Json) : Json :=
  match (plugins ((j.get? "with").getD (.arr []))).run Program.linked with
  | .error message => driverError message
  | .ok (extra, program) =>
    finish (do
      let mut all : List Json := []
      for f in Flavor.all do
        all := all ++ [← flavorJson f]
      match Flavor.byName (textFieldOr j "name" "") with
      | .error f => pure (.obj (failureMembers f ++ [("flavors", .arr all)]))
      | .ok f =>
        let g := f.extend extra
        pure (.obj [("name", .str g.name), ("plugins", natJson g.plugins.length),
          ("caps", textsJson (← capabilityNames g.plugins)), ("flavors", .arr all)]))
      (World.fresh program #[Renderer.default])

/-- A step on a state record. -/
inductive StateStep where
  | get (key : String)
  | lookup (key : String)
  | set (key : String) (v : Value)
  | keys
  | snapshot (mutate : Bool)
  | mutateInit (key : String) (v : Value)
  | valueAs (type key : String)

/-- Reads a state step. -/
def stateStep (j : Json) : Reading StateStep := do
  if let some (.str k) := j.get? "get" then return .get k
  if let some (.str k) := j.get? "lookup" then return .lookup k
  if let some (.arr [.str k, v]) := j.get? "set" then return .set k (← readValue v)
  if j.has "keys" then return .keys
  if let some (.bool b) := j.get? "snapshot" then return .snapshot b
  if let some (.arr [.str k, v]) := j.get? "mutate_init" then return .mutateInit k (← readValue v)
  if let some (.arr [.str t, .str k]) := j.get? "as" then return .valueAs t k
  refuse "state step"

/-- A state field read as a type: the value when it has the type, else the type's zero. -/
def valueAs (type : String) (v : Value) : Value :=
  match type, v with
  | "int", .int .int n => .int .int n
  | "int", _ => .int .int 0
  | "string", .str s => .str s
  | "string", _ => .str ""
  | "float64", .f64 x => .f64 x
  | "float64", _ => .f64 (Number.Binary64.zero false)
  | "bool", .bool b => .bool b
  | "bool", _ => .bool false
  | _, v => v

/-- Runs steps on a state record created from an initial mapping. Changes to the initial mapping
or to a snapshot do not reach the record. -/
def stateAnswer (j : Json) : Json :=
  let read : Reading (Option (List (String × Value)) × List StateStep) := do
    let init ← match j.get? "init" with
      | some (.obj members) => do
        let fs ← fields (depthBound (.obj members)) members
        pure (some (Dict.ofList fs))
      | _ => pure none
    let steps ← (((j.get? "steps").bind Json.arr?).getD []).mapM stateStep
    pure (init, steps)
  match read.run Program.linked with
  | .error message => driverError message
  | .ok ((init, steps), _) =>
    let keysJson (s : StateRecord) : Json := .obj [("keys", textsJson s.keys)]
    let (_, answers) := steps.foldl (fun (acc : StateRecord × List Json) step =>
      let (s, out) := acc
      match step with
      | .get k => (s, out ++ [.obj [("value", encode (s.get k))]])
      | .lookup k =>
        (s, out ++ [.obj [("value", encode ((s.lookup k).getD .null)), ("ok", .bool (s.lookup k).isSome)]])
      | .set k v => let s' := s.set k v; (s', out ++ [keysJson s'])
      | .keys => (s, out ++ [keysJson s])
      | .snapshot _ => (s, out ++ [.obj [("snapshot", .obj (encodeFields s.snapshot))]])
      | .mutateInit _ _ => (s, out ++ [keysJson s])
      | .valueAs t k => (s, out ++ [.obj [("value", encode (valueAs t (s.get k)))]]))
      (StateRecord.ofFields init, [])
    .obj [("steps", .arr answers)]

/-- Reads the steps of a recording subscriber. -/
def busActs : Nat → List Json → Reading (List BusAct)
  | 0, _ => refuse "too deep"
  | _ + 1, [] => pure []
  | fuel + 1, j :: rest => do
    let act ← (do
      if let some (.num literal) := j.get? "dispose" then
        return BusAct.dispose ((literal.toInt?).getD (-1))
      if let some spec := j.get? "on" then
        let id ← readValue ((spec.get? "id").getD .null)
        let acts ← busActs fuel (((spec.get? "then").bind Json.arr?).getD [])
        return BusAct.on (textFieldOr spec "topic" "") id acts
      if let some spec := j.get? "emit" then
        return BusAct.emit (textFieldOr spec "topic" "") (← readValue ((spec.get? "data").getD .null))
      if let some (.str t) := j.get? "count" then return BusAct.count t
      refuse "bus step" : Reading BusAct)
    let acts ← busActs fuel rest
    pure (act :: acts)

/-- Runs steps on a fresh bus: subscriptions report their disposer's index, counts report the
number of subscribers; every step reports the trace it made. -/
def busAnswer (j : Json) : Json :=
  let steps := ((j.get? "steps").bind Json.arr?).getD []
  match (busActs (depthBound (.arr steps)) steps).run Program.linked with
  | .error message => driverError message
  | .ok (acts, program) =>
    finish (do
      let mut answers : List Json := []
      for act in acts do
        let extra ← match act with
          | .on _ _ _ => do pure [("index", natJson (← get).busDisposers.size)]
          | .count topic => do pure [("count", natJson ((← get).bus.count topic))]
          | _ => pure []
        match act with
        | .count _ => pure ()
        | .on topic id then_ =>
          let d ← Run.callOn (.routine (.on true)) topic (.recording id then_)
          modify (fun w => { w with busDisposers := w.busDisposers.push d })
        | other => busSteps [other]
        answers := answers ++ [Json.obj (extra ++ [("trace", traceJson (← takeTrace))])]
      pure (.obj [("steps", .arr answers)])) (World.fresh program #[Renderer.default])

end Scenario

end ViewEngine
