import ViewEngine.Scenario.Render

/-!
Mounting scenarios: a node is mounted into the body of a fresh document, then steps click,
dispatch, emit, trigger and mount again; after the mount and after each step a snapshot reports
the failure, the body's markup, the live mount points, the new trace entries, and optionally a
dump of the element tree and the counters.
-/

namespace ViewEngine

namespace Scenario

open Run

/-- A step of a mounting scenario. -/
inductive MountStep where
  /-- Clicks the first element with a tag. -/
  | click (tag : String)
  /-- Dispatches an event on the element at a path of element children from the body. -/
  | dispatch (path : List Nat) (type : String) (detail : Value)
  /-- Remembers the first element with a tag. -/
  | grab (tag : String)
  /-- Clicks a remembered element. -/
  | clickRef (index : Nat)
  /-- Emits on the bus. -/
  | emit (topic : String) (data : Value)
  /-- Calls a recorded trigger. -/
  | trigger (index : Nat)
  /-- Mounts another node into the body. -/
  | mount (node : Value)
  /-- Mounts a node into the element at a path. -/
  | mountInto (path : List Nat) (node : Value)
  /-- Only takes a snapshot. -/
  | noop

/-- A path of indices. -/
def pathOf (j : Json) : List Nat := ((j.arr?).getD []).filterMap natOf

/-- Reads a mounting step. -/
def mountStep (j : Json) : Reading MountStep := do
  let member (key : String) : Option Json := j.get? key
  if let some (.str tag) := member "click" then return .click tag
  if let some d := member "dispatch" then
    return .dispatch (pathOf ((d.get? "path").getD .null)) (textFieldOr d "type" "")
      (← readValue ((d.get? "detail").getD .null))
  if let some (.str tag) := member "grab" then return .grab tag
  if let some i := member "click_ref" then return .clickRef ((natOf i).getD 0)
  if let some e := member "emit" then
    return .emit (textFieldOr e "topic" "") (← readValue ((e.get? "data").getD .null))
  if let some i := member "trigger" then return .trigger ((natOf i).getD 0)
  if let some n := member "mount" then return .mount (← readValue n)
  if let some m := member "mount_into" then
    return .mountInto (pathOf ((m.get? "path").getD .null)) (← readValue ((m.get? "node").getD .null))
  return .noop

/-- What a tree dump reports. -/
structure Probe where
  /-- The properties to report when present. -/
  props : List String
  /-- The events whose listeners to count. -/
  events : List String

/-- Reads a probe. -/
def probeOf (j : Json) : Probe :=
  let texts (key : String) := (((j.get? key).bind Json.arr?).getD []).filterMap Json.str?
  ⟨texts "props", texts "events"⟩

/-- The element at a path of element children from an element. -/
def elementAt (doc : Host.Document Listener) (start : Nat) : List Nat → Option Nat
  | [] => some start
  | i :: rest =>
    match (doc.childElements start)[i]? with
    | some next => elementAt doc next rest
    | none => none

/-- Dumps an element and its element children, down to a depth. -/
def dumpAt (doc : Host.Document Listener) (probe : Probe) : Nat → Nat → Json
  | 0, _ => .null
  | depth + 1, id =>
    match doc.get? id with
    | none => .null
    | some e =>
      .obj [("tag", .str e.tag), ("classes", textsJson e.classes), ("nodes", natJson e.children.length),
        ("props", .obj (probe.props.filterMap (fun name => (e.props.get? name).map (fun v => (name, encode v))))),
        ("listeners", .obj (probe.events.filterMap (fun ev =>
          let n := (doc.listenersOf id ev).length
          if n > 0 then some (ev, natJson n) else none))),
        ("kids", .arr ((doc.childElements id).map (dumpAt doc probe depth)))]

/-- A snapshot after a step. -/
def snapshot (body : Nat) (probe : Option Probe) (failure : Option Failure) (missing : Bool) : Run Json := do
  let w ← get
  let trace ← takeTrace
  let points := (← renderer configured).points.length
  let members := [("err", optionalFailure failure), ("html", Json.str (w.doc.innerHTML body)),
    ("mounts", natJson points), ("trace", traceJson trace)] ++
    (match probe with
     | some p => [("tree", dumpAt w.doc p (w.doc.elements.size + 1) body)]
     | none => []) ++
    (if missing then [("missing", Json.bool true)] else [])
  pure (.obj (← withMetrics members))

/-- Runs one step, returning its failure and whether its target was missing. -/
def runStep (r body : Nat) (refs : Array Nat) (step : MountStep) : Run (Option Failure × Bool × Array Nat) := do
  let doc := (← get).doc
  match step with
  | .click tag =>
    match doc.find? body tag with
    | some el => pure (← click el, false, refs)
    | none => pure (none, true, refs)
  | .dispatch path type detail =>
    match elementAt doc body path with
    | some el => pure (← dispatchOn el type detail, false, refs)
    | none => pure (none, true, refs)
  | .grab tag =>
    match doc.find? body tag with
    | some el => pure (none, false, refs.push el)
    | none => pure (none, true, refs)
  | .clickRef i =>
    match refs[i]? with
    | some el => pure (← click el, false, refs)
    | none => pure (none, true, refs)
  | .emit topic data =>
    emit topic data
    pure (none, false, refs)
  | .trigger i =>
    match (← get).triggers[i]? with
    | some target => pure (← fireTrigger target, false, refs)
    | none => pure (none, true, refs)
  | .mount node => pure (← mountInto r node body, false, refs)
  | .mountInto path node =>
    match elementAt doc body path with
    | some el => pure (← mountInto r node el, false, refs)
    | none => pure (none, true, refs)
  | .noop => pure (none, false, refs)

/-- Mounts a node into a fresh body with the configured renderer (or the default one), runs the
steps and reports a snapshot after each. -/
def mountAnswer (j : Json) : Json :=
  let read : Reading ((RendererSpec × Value) × List MountStep) := do
    let spec ← rendererSpec ((j.get? "renderer").getD .null)
    let node ← readValue ((j.get? "node").getD .null)
    let steps ← (((j.get? "steps").bind Json.arr?).getD []).mapM mountStep
    pure ((spec, node), steps)
  match read.run Program.linked with
  | .error message => driverError message
  | .ok (((spec, node), steps), program) =>
    match spec.build with
    | .error f => failureJson f
    | .ok rd =>
      let r := if flagField j "global" then standard else configured
      let probe := (j.get? "probe").map probeOf
      finish (do
        let body ← createElement "body"
        let failure ← mountInto r node body
        let first ← snapshot body probe failure false
        let mut refs : Array Nat := #[]
        let mut shots : List Json := []
        for step in steps do
          let (f, missing, refs') ← runStep r body refs step
          refs := refs'
          shots := shots ++ [← snapshot body probe f missing]
        pure (.obj [("mount", first), ("steps", .arr shots)])) (worldFor program spec rd)

end Scenario

end ViewEngine
