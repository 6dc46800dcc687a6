import ViewEngine.Data.Dict
import ViewEngine.Number.Binary

/-!
Values that node trees, props and capabilities hold. A value is data (text, numbers of several
machine widths, lists, mappings), a component, or a routine: a host function such as an event
handler or a capability, named by what it does and by the data it closes over.
-/

namespace ViewEngine

open Number

/-- Machine integer kinds: signedness and width. -/
inductive IntKind where
  | int | int8 | int16 | int32 | int64
  | uint | uint8 | uint16 | uint32 | uint64
  deriving DecidableEq, Repr, Inhabited

namespace IntKind

/-- Whether values of the kind carry a sign. -/
def signed : IntKind → Bool
  | int | int8 | int16 | int32 | int64 => true
  | _ => false

/-- The width in bits. -/
def bits : IntKind → Nat
  | int8 | uint8 => 8
  | int16 | uint16 => 16
  | int32 | uint32 => 32
  | _ => 64

/-- The spelling of the kind. -/
def name : IntKind → String
  | int => "int" | int8 => "int8" | int16 => "int16" | int32 => "int32" | int64 => "int64"
  | uint => "uint" | uint8 => "uint8" | uint16 => "uint16" | uint32 => "uint32" | uint64 => "uint64"

/-- Every kind, in the order of their spellings above. -/
def all : List IntKind := [int, int8, int16, int32, int64, uint, uint8, uint16, uint32, uint64]

/-- The kind with a spelling. -/
def ofName? (s : String) : Option IntKind := all.find? (fun k => k.name == s)

/-- The least value of the kind. -/
def least (k : IntKind) : Int := if k.signed then -(Nat.pow 2 (k.bits - 1) : Nat) else 0

/-- The greatest value of the kind. -/
def greatest (k : IntKind) : Int := if k.signed then (Nat.pow 2 (k.bits - 1) - 1 : Nat) else (Nat.pow 2 k.bits - 1 : Nat)

/-- Reduces an integer into the kind's range, modulo `2 ^ bits` (two's complement). -/
def wrap (k : IntKind) (n : Int) : Int :=
  let m := n % (Nat.pow 2 k.bits : Nat)
  if k.signed && m ≥ (Nat.pow 2 (k.bits - 1) : Nat) then m - (Nat.pow 2 k.bits : Nat) else m

end IntKind

/-- The five shapes a host function may have when given as an event handler: taking the event and
returning an error, taking the event, returning an error, taking nothing, or a shape that is no
handler at all (a function of an integer). -/
inductive HandlerShape where
  | eventError | event | error | plain | wrong
  deriving DecidableEq, Repr, Inhabited

/-- The bundled components. -/
inductive Demo where
  | godspeedYou | stateful | counter | greeter | clock | page
  deriving DecidableEq, Repr, Inhabited

/-- Which function type a component is given as: the named component type, the plain setup
function type, or a setup function whose render function has the plain function type. -/
inductive ComponentForm where
  | component | func | raw
  deriving DecidableEq, Repr, Inhabited

/-- A component: one of the bundled ones, or a scripted one by its place in the program. -/
inductive Component where
  | demo (d : Demo)
  | script (index : Nat)
  deriving DecidableEq, Repr, Inhabited

/-- Where a log capability sends its arguments. -/
inductive LogSink where
  /-- Nowhere. -/
  | discard
  /-- To the console logger (whose output is not observed). -/
  | console
  /-- Into the run's trace. -/
  | trace
  deriving DecidableEq, Repr, Inhabited

/-- What a re-render trigger re-renders: nothing, or a mount point of a renderer. -/
inductive TriggerTarget where
  | none
  | mountPoint (renderer : Nat) (id : Nat)
  deriving DecidableEq, Repr, Inhabited

/-- A host function, named by what it does and by the data it closes over. Capability functions
come `named` (of the capability's own function type) or as a plain function of the same shape. -/
inductive Routine where
  /-- An event handler of a script: its shape, the instance it is bound to (if any), the label it
  traces, and the index of its body in the program. -/
  | handler (shape : HandlerShape) (owner : Option Nat) (label : String) (body : Nat)
  /-- The click handler of a counter: bumps the count in a state record, then logs through a
  capability set; both are named by their place in the run. -/
  | counterClick (state : Nat) (caps : Nat)
  /-- A handler that does nothing. -/
  | idle
  /-- A function of an integer: neither a handler nor encodable. -/
  | wrongShape
  /-- The state constructor. -/
  | newState (named : Bool)
  /-- A log function. -/
  | log (sink : LogSink) (named : Bool)
  /-- A function of a text, of the same kind as a log function but not convertible to it. -/
  | logText
  /-- Schedules a timeout or an interval in a timer table, returning its id. -/
  | setTimer (table : Nat) (interval : Bool)
  /-- Cancels a timer of a table. -/
  | clearTimer (table : Nat)
  /-- An HTTP round trip: the real client, or one that always fails with `offline`. -/
  | fetch (real : Bool)
  /-- Broadcasts on the run's bus, or only traces the call. -/
  | emit (viaBus : Bool)
  /-- Subscribes on the run's bus, or only traces the call. -/
  | on (viaBus : Bool)
  /-- A re-render trigger. -/
  | trigger (target : TriggerTarget)
  deriving Repr, Inhabited

/-- A value held by a node tree, props, state or capabilities. -/
inductive Value where
  /-- The absent value. -/
  | null
  | bool (b : Bool)
  | str (s : String)
  /-- A 64-bit float. -/
  | f64 (x : Binary64)
  /-- A 32-bit float. -/
  | f32 (x : Binary32)
  /-- A machine integer of a kind; the number lies in the kind's range. -/
  | int (kind : IntKind) (n : Int)
  /-- A byte string. -/
  | bytes (data : List UInt8)
  /-- A list of values. -/
  | list (items : List Value)
  /-- A node: a list given the node type. -/
  | node (items : List Value)
  /-- A props mapping; `none` is the absent (nil) mapping of the props type. -/
  | props (fields : Option (List (String × Value)))
  /-- A plain mapping from text to values; `none` is the absent mapping. -/
  | map (fields : Option (List (String × Value)))
  /-- A mapping from text to text. -/
  | textMap (fields : List (String × String))
  /-- A list of texts. -/
  | texts (items : List String)
  /-- A list of integers. -/
  | ints (items : List Int)
  /-- A mapping with keys of any kind, in the order read. -/
  | anyMap (entries : List (Value × Value))
  /-- An error value with its message. -/
  | error (message : String)
  /-- A value that shows itself as a text. -/
  | stringer (shown : String)
  /-- A point in time, held by how it shows itself. -/
  | moment (shown : String)
  /-- A component. -/
  | component (c : Component) (form : ComponentForm)
  /-- A host function. -/
  | routine (r : Routine)
  deriving Repr, Inhabited

/-- A props mapping: its fields, or `none` for the absent mapping. -/
abbrev Props := Option (List (String × Value))

end ViewEngine
