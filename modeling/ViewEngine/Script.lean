import ViewEngine.Value.Basic
import ViewEngine.Props.Shape

/-!
Scripted components: a component described as data. Setup optionally creates a state record and
runs a list of actions; each render call picks the next of a list of templates (the last one
repeating) and fills its placeholders from the state, the props, the render count and the
children. Handlers in templates run actions bound to the rendering instance.
-/

namespace ViewEngine

/-- A value with placeholders. -/
inductive Template where
  /-- A fixed value. -/
  | value (v : Value)
  /-- A list of items, given the node type when `typed`; the children placeholder splices in. -/
  | list (typed : Bool) (items : List Template)
  /-- The children of the rendering instance, spliced into the enclosing list. -/
  | children
  /-- Props with templated values. -/
  | props (fields : List (String × Template))
  /-- The current value of a state field, absent without state. -/
  | state (key : String)
  /-- The value of a prop. -/
  | prop (key : String)
  /-- The props, which may be absent. -/
  | allProps
  /-- The render count, as an `int`. -/
  | count
  /-- A handler of a shape bound to the rendering instance; its actions by their place in the
  program. -/
  | handler (shape : HandlerShape) (body : Nat)
  deriving Repr, Inhabited

/-- A step of a handler or of a setup. -/
inductive Action where
  /-- Sets a state field. -/
  | set (key : String) (value : Template)
  /-- Adds one to an integer state field (anything else counts as zero). -/
  | inc (key : String)
  /-- Logs through the log capability. -/
  | log (args : List Template)
  /-- Emits through the emit capability. -/
  | emit (topic : String) (data : Template)
  /-- Subscribes through the on capability; deliveries set `key` and re-render when asked. -/
  | on (topic : String) (key : Option String) (rerender : Bool)
  /-- Calls a stored disposer. -/
  | dispose (index : Int)
  /-- Calls the re-render capability. -/
  | trigger
  /-- Exercises one capability through its typed accessor. -/
  | cap (name : String)
  /-- Reports whether a capability is provided. -/
  | has (name : String)
  /-- Reports the names of the capabilities. -/
  | names
  /-- Reports the state's fields. -/
  | snapshot
  /-- Fails with a message, ending the actions. -/
  | fail (message : String)
  deriving Repr, Inhabited

/-- The name of an action, as traced when it is skipped. -/
def Action.name : Action → String
  | .set _ _ => "set" | .inc _ => "inc" | .log _ => "log" | .emit _ _ => "emit"
  | .on _ _ _ => "on" | .dispose _ => "dispose" | .trigger => "trigger" | .cap _ => "cap"
  | .has _ => "has" | .names => "names" | .snapshot => "snapshot" | .fail _ => "fail"

/-- The initial state a script asks for. -/
inductive StateSeed where
  /-- No state record. -/
  | none
  /-- A state record created from a mapping, which may be absent. -/
  | seed (fields : Option (List (String × Value)))
  deriving Repr, Inhabited

/-- A scripted component. -/
structure Script where
  /-- The name used in the trace. -/
  name : String
  /-- The function type the component is given as. -/
  form : ComponentForm
  /-- Whether setup returns no render function. -/
  returnsNil : Bool
  /-- The state record created at setup. -/
  seed : StateSeed
  /-- The actions of setup. -/
  setup : List Action
  /-- The templates of the render calls. -/
  renders : List Template
  deriving Repr, Inhabited

/-- The scripts and handler bodies a run refers to by place, and the decoder the program decodes
props with. -/
structure Program where
  /-- The scripted components. -/
  scripts : Array Script
  /-- The action lists of handlers. -/
  bodies : Array (List Action)
  /-- The decoder of props, a library's. -/
  decode : PropsDecoder
  deriving Inhabited

/-- The program with nothing in it, decoding nothing. -/
def Program.empty : Program := ⟨#[], #[], PropsDecoder.zero⟩

end ViewEngine
