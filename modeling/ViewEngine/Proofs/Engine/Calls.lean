import ViewEngine.Engine.Api

/-! Runs of calls: what a host program does with a renderer between engine runs, and the world each
call leaves behind. -/

namespace ViewEngine

/-- The world a run leaves, whether it finished or stopped early. -/
def Run.leaves {α : Type} (m : Run α) (w : World) : World :=
  match m.run w with
  | .ok _ w' => w'
  | .error _ w' => w'

/-- A call a host program makes on a renderer. -/
inductive Call where
  /-- Mounts a node into a container element. -/
  | mount (node : Value) (container : Nat)
  /-- Dispatches an event on an element. -/
  | dispatch (target : Nat) (type : String) (detail : Value)
  /-- Calls a re-render trigger. -/
  | trigger (target : TriggerTarget)
  /-- Emits on the bus. -/
  | emit (topic : String) (data : Value)
  deriving Inhabited

/-- A call with a renderer, its answer dropped. -/
def Call.run (r : Nat) : Call → Run Unit
  | .mount v c => do let _ ← Run.mountInto r v c
  | .dispatch target type detail => do let _ ← Run.dispatchOn target type detail
  | .trigger target => do let _ ← Run.fireTrigger target
  | .emit topic data => Run.emit topic data

/-- The world after calls, each starting where the one before it stopped. -/
def Call.runAll (r : Nat) : List Call → World → World
  | [], w => w
  | c :: rest, w => Call.runAll r rest ((c.run r).leaves w)

end ViewEngine
