import ViewEngine.Json.Read
import ViewEngine.Script
import ViewEngine.Capability
import ViewEngine.Number.Read

/-!
The scenario notation: values, scripted components, templates and actions written as JSON. An
array is a list (a first item `@Name` names a bundled component), an object is props unless it is
a typed value (`$t`), a script (`$script`) or, inside templates, a placeholder. Scripts and handler
bodies are collected into a program as they are read.
-/

namespace ViewEngine

namespace Scenario

open Number

/-- The program collected while reading. -/
abbrev Reading := StateT Program (Except String)

/-- Stops reading with a message. -/
def refuse {α : Type} (message : String) : Reading α := throw message

/-- The bundled component of a name; the clock and unknown names are refused. -/
def demoOf (name : String) : Reading Demo :=
  match name with
  | "GodspeedYou" => pure .godspeedYou
  | "Stateful" => pure .stateful
  | "Counter" => pure .counter
  | "Greeter" => pure .greeter
  | "Page" => pure .page
  | _ => refuse ("unknown demo component " ++ name)

/-- The number a JSON number literal spells, as a 64-bit float. -/
def numberOf (literal : String) : Reading Value :=
  match Binary64.readText literal with
  | .ok x => pure (.f64 x)
  | .error _ => refuse ("number out of range: " ++ literal)

/-- The text of a member, or a refusal. -/
def textField (j : Json) (key : String) : Reading String :=
  match j.get? key with
  | some (.str s) => pure s
  | _ => refuse ("expected a text at " ++ key)

/-- The text of a member, or a default when absent. -/
def textFieldOr (j : Json) (key fallback : String) : String :=
  match j.get? key with
  | some (.str s) => s
  | _ => fallback

/-- The truth value of a member, false when absent. -/
def flagField (j : Json) (key : String) : Bool :=
  match j.get? key with
  | some (.bool b) => b
  | _ => false

/-- The integer a JSON value spells: a decimal text or a number. -/
def integerOf (kind : IntKind) (j : Json) : Reading Int :=
  let text := match j with
    | .str s => s
    | .num literal => literal
    | _ => ""
  if kind.signed then
    match readInt text kind.bits with
    | .ok n => pure n
    | .error _ => refuse ("bad integer " ++ text)
  else
    match readNat text kind.bits with
    | .ok n => pure n
    | .error _ => refuse ("bad integer " ++ text)

/-- A natural number from a JSON number. -/
def natOf (j : Json) : Option Nat :=
  match j with
  | .num literal => literal.toNat?
  | _ => none

/-- The shape of a handler from its spelling; plain by default. -/
def shapeOf (s : String) : HandlerShape :=
  match s with
  | "ev_err" => .eventError
  | "ev" => .event
  | "err" => .error
  | "wrong" => .wrong
  | _ => .plain

/-- The form of a component from its spelling; the component type by default. -/
def formOf (s : String) : ComponentForm :=
  match s with
  | "func" => .func
  | "raw" => .raw
  | _ => .component

/-- The placeholder keys, valid only inside templates. -/
def placeholderKeys : List String := ["$state", "$prop", "$props", "$count", "$handler"]

/-- Whether an object is a placeholder. -/
def isPlaceholder (j : Json) : Bool := placeholderKeys.any j.has

/-- Adds a handler body to the program, returning its place. -/
def addBody (acts : List Action) : Reading Nat := do
  let p ← get
  set { p with bodies := p.bodies.push acts }
  pure p.bodies.size

/-- Adds a script to the program, returning its place. -/
def addScript (s : Script) : Reading Nat := do
  let p ← get
  set { p with scripts := p.scripts.push s }
  pure p.scripts.size

mutual
/-- Reads a value. -/
def value : Nat → Json → Reading Value
  | 0, _ => refuse "too deep"
  | _ + 1, .null => pure .null
  | _ + 1, .bool b => pure (.bool b)
  | _ + 1, .str s => pure (.str s)
  | _ + 1, .num literal => numberOf literal
  | fuel + 1, .arr items => do pure (.list (← listItems fuel items))
  | fuel + 1, .obj members =>
    if members.any (fun m => m.1 == "$t") then typed fuel members
    else if members.any (fun m => m.1 == "$script") then
      match members.find? (fun m => m.1 == "$script") with
      | some (_, spec) => script fuel spec
      | none => refuse "script"
    else if isPlaceholder (.obj members) then refuse "placeholder outside a template"
    else do pure (.props (some (Dict.ofList (← fields fuel members))))

/-- Reads the items of a list; a first item `@Name` stands for a bundled component. -/
def listItems : Nat → List Json → Reading (List Value)
  | 0, _ => refuse "too deep"
  | _ + 1, [] => pure []
  | fuel + 1, first :: rest => do
    let head ← match first with
      | .str s =>
        if s.startsWith "@" then do
          let d ← demoOf (String.ofList (s.toList.drop 1))
          pure (Value.component (.demo d) .component)
        else pure (.str s)
      | j => value fuel j
    let tail ← values fuel rest
    pure (head :: tail)

/-- Reads values in order. -/
def values : Nat → List Json → Reading (List Value)
  | 0, _ => refuse "too deep"
  | _ + 1, [] => pure []
  | fuel + 1, j :: rest => do
    let v ← value fuel j
    let vs ← values fuel rest
    pure (v :: vs)

/-- Reads the members of an object as fields. -/
def fields : Nat → List (String × Json) → Reading (List (String × Value))
  | 0, _ => refuse "too deep"
  | _ + 1, [] => pure []
  | fuel + 1, (k, j) :: rest => do
    let v ← value fuel j
    let vs ← fields fuel rest
    pure ((k, v) :: vs)

/-- Reads a typed value `{"$t": T, "v": V}`. -/
def typed : Nat → List (String × Json) → Reading Value
  | 0, _ => refuse "too deep"
  | fuel + 1, members => do
    let j := Json.obj members
    let t ← textField j "$t"
    let v := (j.get? "v").getD .null
    match IntKind.ofName? t with
    | some kind => do pure (.int kind (← integerOf kind v))
    | none =>
      match t, v with
      | "f64", .str s =>
        match Binary64.nearestOfText s with
        | some x => pure (.f64 x)
        | none => refuse ("bad float " ++ s)
      | "f32", .str s =>
        match Binary32.nearestOfText s with
        | some x => pure (.f32 x)
        | none => refuse ("bad float " ++ s)
      | "node", .arr items => do pure (.node (← listItems fuel items))
      | "props", .obj ms => do pure (.props (some (Dict.ofList (← fields fuel ms))))
      | "props", _ => pure (.props none)
      | "map", .obj ms => do pure (.map (some (Dict.ofList (← fields fuel ms))))
      | "map", _ => pure (.map none)
      | "smap", .obj ms => pure (.textMap (Dict.ofList (ms.map (fun m => (m.1, (m.2.str?).getD "")))))
      | "strs", .arr items => pure (.texts (items.map (fun i => i.str?.getD "")))
      | "ints", .arr items => do
        let ns ← items.mapM (fun i => integerOf .int i)
        pure (.ints ns)
      | "bytes", .arr items => do
        let ns ← items.mapM (fun i => integerOf .uint8 i)
        pure (.bytes (ns.map (fun n => n.toNat.toUInt8)))
      | "error", .str s => pure (.error s)
      | "stringer", .str s => pure (.stringer s)
      | "comp", .str s => do
        let d ← demoOf s
        pure (.component (.demo d) (formOf (textFieldOr j "form" "component")))
      | "handler", spec => do
        let shape := shapeOf (textFieldOr spec "shape" "plain")
        let body ← actionList fuel ((spec.get? "do").getD (.arr []))
        let index ← addBody body
        pure (.routine (.handler shape none "-" index))
      | "wrongfn", _ => pure (.routine .wrongShape)
      | "statefunc", _ => pure (.routine (.newState true))
      | "fn_state", _ => pure (.routine (.newState false))
      | "logfunc", _ => pure (.routine (.log .trace true))
      | "fn_log", _ => pure (.routine (.log .trace false))
      | "fn_log_wrong", _ => pure (.routine .logText)
      | "fn_fetch", _ => pure (.routine (.fetch false))
      | "fn_emit", _ => pure (.routine (.emit false))
      | "fn_on", _ => pure (.routine (.on false))
      | other, _ => refuse ("unknown typed value " ++ other)

/-- Reads a scripted component. -/
def script : Nat → Json → Reading Value
  | 0, _ => refuse "too deep"
  | fuel + 1, spec => do
    let name := textFieldOr spec "name" ""
    let form := formOf (textFieldOr spec "form" "component")
    let seed ← match spec.get? "init" with
      | none => pure StateSeed.none
      | some .null => pure (StateSeed.seed none)
      | some (.obj ms) => do
        let fs ← fields fuel ms
        pure (StateSeed.seed (some (Dict.ofList fs)))
      | some _ => refuse "init"
    let setup ← actionList fuel ((spec.get? "setup").getD (.arr []))
    let renders ← match spec.get? "renders" with
      | some (.arr items) => templates fuel items
      | _ => pure []
    let index ← addScript ⟨name, form, flagField spec "nil", seed, setup, renders⟩
    pure (.component (.script index) form)

/-- Reads a template. -/
def template : Nat → Json → Reading Template
  | 0, _ => refuse "too deep"
  | fuel + 1, .arr items => do pure (.list false (← templateItems fuel true items))
  | fuel + 1, .obj members =>
    let j := Json.obj members
    if j.has "$t" then
      match j.get? "$t", j.get? "v" with
      | some (.str "node"), some (.arr items) => do pure (.list true (← templateItems fuel true items))
      | _, _ => do pure (.value (← value fuel j))
    else if j.has "$script" then do pure (.value (← value fuel j))
    else if j.has "$state" then do pure (.state (← textField j "$state"))
    else if j.has "$prop" then do pure (.prop (← textField j "$prop"))
    else if j.has "$props" then pure .allProps
    else if j.has "$count" then pure .count
    else if j.has "$handler" then
      match members.find? (fun m => m.1 == "$handler") with
      | some (_, spec) => do
        let shape := shapeOf (textFieldOr spec "shape" "plain")
        let body ← actionList fuel ((spec.get? "do").getD (.arr []))
        let index ← addBody body
        pure (.handler shape index)
      | none => refuse "handler"
    else do pure (.props (← templateFields fuel members))
  | fuel + 1, j => do pure (.value (← value fuel j))

/-- Reads the items of a list template; `{"$children": true}` splices the children, and a first
item `@Name` names a bundled component. -/
def templateItems : Nat → Bool → List Json → Reading (List Template)
  | 0, _, _ => refuse "too deep"
  | _ + 1, _, [] => pure []
  | fuel + 1, atHead, j :: rest => do
    let t ← match j with
      | .str s =>
        if atHead && s.startsWith "@" then do
          let d ← demoOf (String.ofList (s.toList.drop 1))
          pure (Template.value (.component (.demo d) .component))
        else pure (.value (.str s))
      | .obj ms =>
        if (Json.obj ms).has "$children" then pure .children else template fuel j
      | _ => template fuel j
    let ts ← templateItems fuel false rest
    pure (t :: ts)

/-- Reads the members of a props template. -/
def templateFields : Nat → List (String × Json) → Reading (List (String × Template))
  | 0, _ => refuse "too deep"
  | _ + 1, [] => pure []
  | fuel + 1, (k, j) :: rest => do
    let t ← template fuel j
    let ts ← templateFields fuel rest
    pure ((k, t) :: ts)

/-- Reads a list of templates. -/
def templates : Nat → List Json → Reading (List Template)
  | 0, _ => refuse "too deep"
  | _ + 1, [] => pure []
  | fuel + 1, j :: rest => do
    let t ← template fuel j
    let ts ← templates fuel rest
    pure (t :: ts)

/-- Reads a list of actions. -/
def actionList : Nat → Json → Reading (List Action)
  | 0, _ => refuse "too deep"
  | fuel + 1, .arr items => actions fuel items
  | _ + 1, _ => pure []

/-- Reads actions in order. -/
def actions : Nat → List Json → Reading (List Action)
  | 0, _ => refuse "too deep"
  | _ + 1, [] => pure []
  | fuel + 1, j :: rest => do
    let a ← action fuel j
    let as ← actions fuel rest
    pure (a :: as)

/-- Reads one action `{"do": X, ...}`. -/
def action : Nat → Json → Reading Action
  | 0, _ => refuse "too deep"
  | fuel + 1, j =>
    let member (key : String) : Json := (j.get? key).getD .null
    match textFieldOr j "do" "" with
    | "set" => do
      let t ← template fuel (member "value")
      pure (.set (textFieldOr j "key" "") t)
    | "inc" => pure (.inc (textFieldOr j "key" ""))
    | "log" =>
      match member "args" with
      | .arr args => do pure (.log (← templates fuel args))
      | _ => pure (.log [])
    | "emit" => do
      let t ← template fuel (member "data")
      pure (.emit (textFieldOr j "topic" "") t)
    | "on" =>
      let key := match j.get? "key" with
        | some (.str k) => some k
        | _ => none
      pure (.on (textFieldOr j "topic" "") key (flagField j "trigger"))
    | "dispose" =>
      match member "index" with
      | .num literal =>
        match readInt literal 64 with
        | .ok n => pure (.dispose n)
        | .error _ => pure (.dispose (-1))
      | _ => pure (.dispose (-1))
    | "trigger" => pure .trigger
    | "cap" => pure (.cap (textFieldOr j "name" ""))
    | "has" => pure (.has (textFieldOr j "name" ""))
    | "names" => pure .names
    | "snapshot" => pure .snapshot
    | "fail" => pure (.fail (textFieldOr j "message" ""))
    | other => refuse ("unknown action " ++ other)
end

/-- A nesting bound for reading a document: its written length. -/
def depthBound (j : Json) : Nat := j.write.length + 2

/-- Reads a value, as deep as it nests. -/
def readValue (j : Json) : Reading Value := value (depthBound j) j

/-- Reads a plugin spec. -/
def plugin : Json → Reading Plugin
  | .str "timers" => pure .timers
  | .str "fragment" => pure .fragment
  | .str "state" => pure .state
  | .str "nulllog" => pure .nullLog
  | .str "consolelog" => pure .consoleLog
  | .str "fetch" => pure .fetch
  | .str "pubsub" => pure .pubsub
  | .str "tracelog" => pure .traceLog
  | .str "trigger" => pure .trigger
  | .str "nil" => pure .absent
  | .obj members =>
    match members.find? (fun m => m.1 == "provide") with
    | some (_, .obj provided) => do
      let fs ← fields (depthBound (.obj provided)) provided
      pure (.provide fs)
    | some (_, .null) => pure (.provide [])
    | _ => refuse "plugin"
  | _ => refuse "plugin"

/-- Reads a list of plugin specs. -/
def plugins : Json → Reading (List Plugin)
  | .arr items => items.mapM plugin
  | _ => pure []

end Scenario

end ViewEngine
