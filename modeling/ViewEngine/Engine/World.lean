import ViewEngine.Capability
import ViewEngine.Script
import ViewEngine.State
import ViewEngine.Bus
import ViewEngine.Host.Markup
import ViewEngine.Node.Classify

/-!
Everything a run holds: the host document, the renderers with their mount points and counters,
state records, capability sets, timer tables, the bus, scripted instances, recorded triggers and
the trace. Parts refer to one another by their place in these tables.
-/

namespace ViewEngine

/-- What a render function of a mount point is. -/
inductive RenderFn where
  /-- Rebuilds a host node from the props and children it is given. -/
  | host (tag : String)
  /-- Greets the `who` prop. -/
  | godspeedYou
  /-- A button in a fragment showing the `count` prop. -/
  | stateful
  /-- A button counting clicks in a state record, with its label and capability set. -/
  | counter (label : String) (state : Nat) (caps : Nat)
  /-- The last greeting received, from a state record. -/
  | greeter (state : Nat)
  /-- A page composed of the other bundled components. -/
  | page
  /-- The clock: a `time` element showing the moment of its setup. -/
  | clock
  /-- A scripted instance. -/
  | script (inst : Nat)
  deriving Repr, Inhabited

/-- A mount point: a node occurrence kept live in a container. -/
structure MountPoint where
  /-- Its number within its renderer. -/
  id : Nat
  /-- The component's or tag's name. -/
  name : String
  /-- The element it renders into. -/
  container : Nat
  /-- The element it created, unless its rendering is a fragment. -/
  element : Option Nat
  /-- Its render function. -/
  render : RenderFn
  /-- The props it was mounted with. -/
  props : Props
  /-- The children it was mounted with. -/
  children : List Value
  /-- Whether a render phase of it is running. -/
  rendering : Bool
  /-- The mount points its render phases created. -/
  kids : List Nat
  deriving Inhabited

/-- Counters of a renderer: setups, render calls by backend, handled events by type, and live
mount points. Only touched labels appear. -/
structure Metrics where
  /-- Setup calls. -/
  setups : Nat
  /-- Render function calls by backend. -/
  renders : Dict Nat
  /-- Handled events by type. -/
  events : Dict Nat
  /-- Live mount points. -/
  mountPoints : Int
  deriving Inhabited

/-- Counters at zero. -/
def Metrics.zero : Metrics := ⟨0, Dict.empty, Dict.empty, 0⟩

/-- Adds one to a labelled counter. -/
def Dict.bump (d : Dict Nat) (label : String) : Dict Nat :=
  d.insert label ((d.get? label).getD 0 + 1)

/-- A renderer: a plugin configuration with its mount points. -/
structure Renderer where
  /-- The plugins, in order. -/
  plugins : List Plugin
  /-- Whether the string backend escapes texts and attribute values. -/
  escape : Bool
  /-- Whether a re-render replaces the children instead of appending. -/
  clearOnUpdate : Bool
  /-- The counters, when kept. -/
  metrics : Option Metrics
  /-- The last mount point number handed out. -/
  next : Nat
  /-- The live mount points. -/
  points : List MountPoint
  deriving Inhabited

/-- A renderer with the safe flavor and no options. -/
def Renderer.default : Renderer := ⟨Flavor.safe.plugins, false, false, none, 0, []⟩

/-- A listener on a host element. -/
inductive Listener where
  /-- A component's handler on a mount point of a renderer: runs it, then re-renders. -/
  | mounted (renderer : Nat) (point : Nat) (handler : Routine)
  /-- Records the event in the trace, then fails with a message if given. -/
  | recorder (id : Value) (failure : Option String)
  deriving Inhabited

/-- What a subscriber of the bus does on each subscriber step. -/
inductive BusAct where
  /-- Calls a stored disposer. -/
  | dispose (index : Int)
  /-- Subscribes a recording subscriber with these steps. -/
  | on (topic : String) (id : Value) (acts : List BusAct)
  /-- Emits on the bus. -/
  | emit (topic : String) (data : Value)
  /-- Reports the subscriber count of a topic. -/
  | count (topic : String)
  deriving Repr, Inhabited

/-- A bus subscriber. -/
inductive Subscriber where
  /-- Records each delivery, then runs its steps. -/
  | recording (id : Value) (acts : List BusAct)
  /-- Stores each greeting in a state record. -/
  | greeter (state : Nat)
  /-- A scripted instance's subscription: records, stores in `key`, and re-renders when asked. -/
  | scripted (inst : Nat) (topic : String) (key : Option String) (rerender : Bool)
  /-- Ignores deliveries. -/
  | silent
  deriving Inhabited

/-- Undoes a subscription. -/
inductive Disposer where
  /-- Removes a subscription from the bus. -/
  | bus (topic : String) (id : Nat)
  /-- Does nothing. -/
  | idle
  deriving Inhabited

/-- A scripted component's instance. -/
structure Instance where
  /-- The script, by place. -/
  script : Nat
  /-- The script's name. -/
  name : String
  /-- Its capability set, by place. -/
  caps : Nat
  /-- Its state record, by place. -/
  state : Option Nat
  /-- The props of its latest setup or render call. -/
  props : Props
  /-- How many render calls it had. -/
  renders : Nat
  /-- The disposers of its subscriptions. -/
  disposers : Array Disposer
  deriving Inhabited

/-- A timer table: the last id handed out and the pending timers. -/
structure TimerTable where
  /-- The last id handed out. -/
  next : Nat
  /-- The pending timers. -/
  pending : List Nat
  deriving Inhabited

/-- An entry of the trace. -/
inductive Note where
  /-- A plain mark. -/
  | mark (text : String)
  /-- Arguments given to a recording log function. -/
  | log (args : List Value)
  /-- A state record created by a capability check, with its fields. -/
  | newState (keys : List String)
  /-- A delivery to a subscriber, with the topic when the subscriber records it. -/
  | recv (id : Value) (topic : Option String) (data : Value)
  /-- A re-render trigger that failed. -/
  | triggerFailed (name : String) (failure : Failure)
  /-- A call of a stand-in emit function. -/
  | fakeEmit (topic : String) (data : Value)
  /-- A state record's fields. -/
  | snapshot (fields : List (String × Value)) (keys : List String)
  /-- Capability names. -/
  | names (names : List String)
  /-- An event delivered to a recording listener. -/
  | listener (id : Value) (type : String) (target : String) (detail : Value)
  deriving Inhabited

/-- Everything a run holds. -/
structure World where
  /-- The scripts and handler bodies. -/
  program : Program
  /-- The host document. -/
  doc : Host.Document Listener
  /-- The renderers. -/
  renderers : Array Renderer
  /-- The state records. -/
  states : Array StateRecord
  /-- The composed capability sets. -/
  capsets : Array CapSet
  /-- The timer tables. -/
  timers : Array TimerTable
  /-- The bus. -/
  bus : Bus Subscriber
  /-- The disposers of subscriptions made directly on the bus. -/
  busDisposers : Array Disposer
  /-- The scripted instances. -/
  instances : Array Instance
  /-- The triggers recorded by the trigger plugin. -/
  triggers : Array TriggerTarget
  /-- The trace. -/
  trace : Array Note
  /-- Steps left. -/
  budget : Nat
  deriving Inhabited

/-- Steps a run may take. -/
def World.stepBudget : Nat := 20000

/-- A fresh world over a program and a list of renderers. -/
def World.fresh (program : Program) (renderers : Array Renderer) : World :=
  { program, doc := Host.Document.empty, renderers, states := #[], capsets := #[], timers := #[]
    bus := Bus.empty, busDisposers := #[], instances := #[], triggers := #[], trace := #[]
    budget := World.stepBudget }

end ViewEngine
