import ViewEngine.Engine.World

/-!
The run monad and the small steps on the world: tracing, spending the step budget, and reading
and changing renderers, mount points, state records, capability sets, timer tables and instances.
A run stops early with a failure that is returned, a capability check that fails, or an exhausted
budget.
-/

namespace ViewEngine

/-- Why a run stops early. -/
inductive Abort where
  /-- A failure returned to the caller. -/
  | fail (f : Failure)
  /-- A capability accessor found its capability missing or mistyped. -/
  | capability (f : Failure)
  /-- The step budget ran out. -/
  | exhausted
  deriving Inhabited

/-- A computation on the world that may stop early. -/
abbrev Run := EStateM Abort World

namespace Run

/-- Returns a failure to the caller. -/
def fail {α : Type} (f : Failure) : Run α := throw (.fail f)

/-- Stops at a capability check. -/
def capabilityFailed {α : Type} (f : Failure) : Run α := throw (.capability f)

/-- Runs a computation, turning a failed capability check into a returned failure. -/
def recover {α : Type} (body : Run α) : Run α :=
  tryCatch body (fun e =>
    match e with
    | .capability f => throw (.fail f)
    | other => throw other)

/-- Runs a computation, returning its failure instead of passing it on. Capability checks and an
exhausted budget still pass. -/
def attempt {α : Type} (body : Run α) : Run (Except Failure α) :=
  tryCatch (do let a ← body; pure (.ok a)) (fun e =>
    match e with
    | .fail f => pure (.error f)
    | other => throw other)

/-- Runs a computation, then a final step whether or not it stopped early. -/
def andFinally {α : Type} (body : Run α) (last : Run Unit) : Run α :=
  tryCatch (do let a ← body; last; pure a) (fun e => do last; throw e)

/-- Adds an entry to the trace. -/
def note (n : Note) : Run Unit := modify (fun w => { w with trace := w.trace.push n })

/-- Adds a mark to the trace. -/
def mark (text : String) : Run Unit := note (.mark text)

/-- Spends one step of the budget. -/
def spend : Run Unit := do
  let w ← get
  if w.budget == 0 then throw .exhausted
  set { w with budget := w.budget - 1 }

/-- A renderer. -/
def renderer (r : Nat) : Run Renderer := do
  pure ((← get).renderers.getD r Renderer.default)

/-- Changes a renderer. -/
def modifyRenderer (r : Nat) (f : Renderer → Renderer) : Run Unit :=
  modify (fun w => { w with renderers := w.renderers.modify r f })

/-- Changes the counters of a renderer, if it keeps them. -/
def count (r : Nat) (f : Metrics → Metrics) : Run Unit :=
  modifyRenderer r (fun rd => { rd with metrics := rd.metrics.map f })

/-- A live mount point of a renderer. -/
def point? (r id : Nat) : Run (Option MountPoint) := do
  pure ((← renderer r).points.find? (fun p => p.id == id))

/-- Changes a live mount point. -/
def modifyPoint (r id : Nat) (f : MountPoint → MountPoint) : Run Unit :=
  modifyRenderer r (fun rd => { rd with points := rd.points.map (fun p => if p.id == id then f p else p) })

/-- Hands out the next mount point number of a renderer. -/
def reserve (r : Nat) : Run Nat := do
  let rd ← renderer r
  modifyRenderer r (fun rd => { rd with next := rd.next + 1 })
  pure (rd.next + 1)

/-- Makes a mount point live. -/
def addPoint (r : Nat) (p : MountPoint) : Run Unit :=
  modifyRenderer r (fun rd => { rd with points := rd.points ++ [p] })

/-- Removes mount points and everything they created, returning how many were live. -/
def dropPoints (r : Nat) (ids : List Nat) : Run Nat := do
  let rd ← renderer r
  let fuel := ids.length + rd.points.foldl (fun n p => n + p.kids.length) 0 + 1
  let (kept, removed) := sweep fuel ids rd.points 0
  modifyRenderer r (fun rd => { rd with points := kept })
  pure removed
where
  /-- Takes the mount points of a work list, and their kids after them, out of a list. -/
  sweep : Nat → List Nat → List MountPoint → Nat → List MountPoint × Nat
    | 0, _, points, n => (points, n)
    | _ + 1, [], points, n => (points, n)
    | fuel + 1, id :: rest, points, n =>
      match points.find? (fun p => p.id == id) with
      | none => sweep fuel rest points n
      | some p => sweep fuel (p.kids.reverse ++ rest) (points.filter (fun q => q.id != id)) (n + 1)

/-- A state record. -/
def stateRecord (i : Nat) : Run StateRecord := do pure ((← get).states.getD i default)

/-- Creates a state record, returning its place. -/
def newState (init : Option (List (String × Value))) : Run Nat := do
  let w ← get
  set { w with states := w.states.push (StateRecord.ofFields init) }
  pure w.states.size

/-- Sets a field of a state record. -/
def setState (i : Nat) (key : String) (v : Value) : Run Unit :=
  modify (fun w => { w with states := w.states.modify i (fun s => s.set key v) })

/-- A capability set. -/
def capset (i : Nat) : Run CapSet := do pure ((← get).capsets.getD i default)

/-- An instance. -/
def inst (i : Nat) : Run Instance := do pure ((← get).instances.getD i default)

/-- Changes an instance. -/
def modifyInst (i : Nat) (f : Instance → Instance) : Run Unit :=
  modify (fun w => { w with instances := w.instances.modify i f })

/-- Changes the document. -/
def modifyDoc (f : Host.Document Listener → Host.Document Listener) : Run Unit :=
  modify (fun w => { w with doc := f w.doc })

/-- Creates an element, returning its place. -/
def createElement (tag : String) : Run Nat := do
  let w ← get
  let (doc, id) := w.doc.create tag
  set { w with doc }
  pure id

/-- Calls one plugin with the re-render trigger and stores what it provides in the set being
composed, later entries replacing earlier ones: each timer plugin is handed a fresh timer table,
the trigger plugin records the trigger. -/
def composeOne (target : TriggerTarget) (values : Dict Value) (p : Plugin) : Run (Dict Value) := do
  let table ← match p with
    | .timers => do
      let w ← get
      set { w with timers := w.timers.push ⟨0, []⟩ }
      pure w.timers.size
    | .trigger => do
      modify (fun w => { w with triggers := w.triggers.push target })
      pure 0
    | _ => pure 0
  pure (values.insertAll (p.provides target table))

/-- Composes the capabilities of plugins for a component, with its re-render trigger, returning the
set's place. -/
def compose (plugins : List Plugin) (target : TriggerTarget) : Run Nat := do
  let mut values : Dict Value := Dict.empty
  for p in plugins do
    values ← composeOne target values p
  let w ← get
  set { w with capsets := w.capsets.push ⟨values⟩ }
  pure w.capsets.size

/-- Starts a timer in a table, returning its id. -/
def startTimer (t : Nat) : Run Nat := do
  let w ← get
  let table := w.timers.getD t default
  let id := table.next + 1
  set { w with timers := w.timers.set! t ⟨id, table.pending ++ [id]⟩ }
  pure id

/-- Stops a timer of a table (nothing if it is not pending). -/
def stopTimer (t id : Nat) : Run Unit :=
  modify (fun w => { w with timers := w.timers.modify t (fun tb => { tb with pending := tb.pending.erase id }) })

end Run

end ViewEngine
