import ViewEngine.Engine.Run

/-!
The engine's entry points: rendering to markup, mounting into an element, dispatching and clicking,
calling a re-render trigger, and emitting on the bus. Each turns a failed capability check into a
returned failure.
-/

namespace ViewEngine

namespace Run

/-- How deeply engine calls may nest. -/
def depthAllowance : Nat := 100000

/-- How deeply a mount may nest: twice the allowance and one more, as a render phase sits between a
node and its children, so that a mount reaches as deep into content as a rendering to markup. -/
def mountAllowance : Nat := 2 * depthAllowance + 1

/-- Renders a value to markup with a renderer. -/
def renderToString (r : Nat) (v : Value) : Run (Except Failure String) :=
  attempt (recover (Run.renderString depthAllowance r v))

/-- Mounts a value into an element with a renderer. -/
def mountInto (r : Nat) (v : Value) (container : Nat) : Run (Option Failure) := do
  match ← attempt (recover (Run.mount mountAllowance r v container none)) with
  | .ok () => pure none
  | .error f => pure (some f)

/-- Dispatches an event on an element, returning the joined failures of its listeners. -/
def dispatchOn (target : Nat) (type : String) (detail : Value) : Run (Option Failure) :=
  Run.dispatch depthAllowance ⟨type, target, detail⟩

/-- Clicks an element. -/
def click (target : Nat) : Run (Option Failure) := dispatchOn target "click" .null

/-- Calls a re-render trigger, returning its failure. -/
def fireTrigger (target : TriggerTarget) : Run (Option Failure) := do
  match ← attempt (Run.fire depthAllowance target) with
  | .ok () => pure none
  | .error f => pure (some f)

/-- Emits on the run's bus. -/
def emit (topic : String) (data : Value) : Run Unit := Run.emitOnBus depthAllowance topic data

/-- Runs steps of a recording bus subscriber. -/
def busSteps (acts : List BusAct) : Run Unit := Run.busActs depthAllowance acts

/-- Exercises a capability of a set. -/
def exercise (caps : Nat) (name : String) : Run Unit := Run.checkCap depthAllowance caps name

end Run

end ViewEngine
