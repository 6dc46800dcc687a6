import ViewEngine.Failure
import ViewEngine.Value.Show
import ViewEngine.Text.Case
import ViewEngine.Node.Basic

/-!
Capabilities: the named host functions a component may use, composed from plugins (a later plugin
overrides an earlier one of the same name). A typed accessor accepts a value of the capability's
type or of a plain function type of the same shape, and otherwise fails naming the capability and
the value it found. Flavors are named plugin lists, looked up ignoring case.
-/

namespace ViewEngine

/-- A frozen set of capabilities. -/
structure CapSet where
  /-- The capabilities by name. -/
  values : Dict Value
  deriving Inhabited

/-- The types of the typed accessors. -/
inductive CapType where
  | fragment | state | log | setTimer | clearTimer | fetch | emit | on
  deriving Repr, DecidableEq, Inhabited

/-- Whether a value has a capability type, or a type that converts to it. -/
def CapType.accepts : CapType → Value → Bool
  | .fragment, .str _ => true
  | .state, .routine (.newState _) => true
  | .log, .routine (.log _ _) => true
  | .setTimer, .routine (.setTimer _ _) => true
  | .clearTimer, .routine (.clearTimer _) => true
  | .fetch, .routine (.fetch _) => true
  | .emit, .routine (.emit _) => true
  | .on, .routine (.on _) => true
  | _, _ => false

namespace CapSet

/-- The capability of a name, if provided. -/
def lookup? (c : CapSet) (name : String) : Option Value := c.values.get? name

/-- Whether a name is provided. -/
def has (c : CapSet) (name : String) : Bool := c.values.contains name

/-- The provided names, sorted. -/
def names (c : CapSet) : List String := c.values.keys

/-- The capability of a name through a typed accessor: missing, or of another type, it fails,
naming the capability and the value it found (the absent value when the name is missing). -/
def typed (c : CapSet) (name : String) (t : CapType) : Except Failure Value :=
  match c.lookup? name with
  | none => .error (.capability name .null)
  | some v => if t.accepts v then .ok v else .error (.capability name v)

end CapSet

/-- A plugin: what it provides when a component is set up. -/
inductive Plugin where
  /-- Timeouts and intervals over a fresh timer table. -/
  | timers
  /-- The fragment tag. -/
  | fragment
  /-- The state constructor. -/
  | state
  /-- A log function that discards everything. -/
  | nullLog
  /-- A log function writing to the console logger. -/
  | consoleLog
  /-- The HTTP round trip. -/
  | fetch
  /-- Emitting and subscribing on the run's bus. -/
  | pubsub
  /-- A log function recording its arguments in the trace. -/
  | traceLog
  /-- The re-render trigger, recorded in the run's trigger list. -/
  | trigger
  /-- Fixed values. -/
  | provide (values : List (String × Value))
  /-- No plugin: skipped when composing. -/
  | absent
  deriving Repr, Inhabited

/-- What a plugin provides when it is called with a re-render trigger. The timer functions work
on the timer table the plugin was handed, and the trigger plugin provides the trigger itself. -/
def Plugin.provides (rerender : TriggerTarget) (table : Nat) : Plugin → List (String × Value)
  | .timers =>
    [("setTimeout", .routine (.setTimer table false)), ("clearTimeout", .routine (.clearTimer table)),
     ("setInterval", .routine (.setTimer table true)), ("clearInterval", .routine (.clearTimer table))]
  | .fragment => [("fragment", .str fragmentTag)]
  | .state => [("state", .routine (.newState true))]
  | .nullLog => [("log", .routine (.log .discard true))]
  | .consoleLog => [("log", .routine (.log .console true))]
  | .fetch => [("fetch", .routine (.fetch true))]
  | .pubsub => [("emit", .routine (.emit true)), ("on", .routine (.on true))]
  | .traceLog => [("log", .routine (.log .trace true))]
  | .trigger => [("rerender", .routine (.trigger rerender))]
  | .provide provided => provided
  | .absent => []

/-- A named plugin list. -/
structure Flavor where
  /-- The name. -/
  name : String
  /-- The plugins, in order. -/
  plugins : List Plugin
  deriving Repr, Inhabited

namespace Flavor

/-- No network, logs discarded; the default. -/
def safe : Flavor := ⟨"safe", [.timers, .fragment, .state, .nullLog]⟩

/-- The safe plugins and the HTTP round trip. -/
def modern : Flavor := ⟨"modern", [.timers, .fragment, .state, .nullLog, .fetch]⟩

/-- Logs to the console logger. -/
def debug : Flavor := ⟨"debug", [.timers, .consoleLog, .fragment, .state]⟩

/-- The bundled flavors. -/
def all : List Flavor := [safe, modern, debug]

/-- The flavor of a name, compared ignoring case. -/
def byName (name : String) : Except Failure Flavor :=
  match all.find? (fun f => Text.equalFold f.name.toList name.toList) with
  | some f => .ok f
  | none => .error (.unknownFlavor name)

/-- The flavor with more plugins after its own. -/
def extend (f : Flavor) (more : List Plugin) : Flavor := ⟨f.name, f.plugins ++ more⟩

end Flavor

/-- The version of the engine. -/
def version : String := "0.1.0"

/-- The banner naming the engine and its version. -/
def welcome : String := "You are using Rigor@" ++ version

end ViewEngine
