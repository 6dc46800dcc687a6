import ViewEngine.Engine.Access
import ViewEngine.Engine.Fill

/-!
The engine: setting up components and calling their render functions, rendering to markup,
mounting into the host document and keeping mount points live, delivering events to listeners,
running handler actions, and delivering bus messages. A listener runs its handler and then renders
its mount point again; a re-render appends to the element's children, or replaces them when the
renderer clears on update, releasing the mount points rendered into it.

Every step takes a depth allowance that each nested call lowers by one; running out stops the run
like an exhausted budget.
-/

namespace ViewEngine

open Run

/-- An event delivered to an element's listeners. -/
structure Event where
  /-- The event type. -/
  type : String
  /-- The element it was dispatched on. -/
  target : Nat
  /-- The data it carries. -/
  detail : Value

/-- The spelling of a bundled component's name. -/
def Demo.name : Demo → String
  | .godspeedYou => "GodspeedYou"
  | .stateful => "Stateful"
  | .counter => "Counter"
  | .greeter => "Greeter"
  | .clock => "Clock"
  | .page => "Page"

/-- The name of a component, as errors show it: the bundled components by their package and name,
scripted ones by the setup function of their form. -/
def Component.name : Component → ComponentForm → String
  | .demo d, _ => "demo." ++ d.name
  | .script _, .raw => "main.(*script).setupRaw-fm"
  | .script _, _ => "main.(*script).setupFn-fm"

/-- The component a tag stands for, if any. -/
def Value.component? : Value → Option (Component × ComponentForm)
  | .component c form => some (c, form)
  | _ => none

/-- The event handler a prop value stands for: a function taking the event or nothing and
returning an error or nothing. -/
def Value.handler? : Value → Option Routine
  | .routine r =>
    match r with
    | .handler .wrong _ _ _ => none
    | .handler _ _ _ _ => some r
    | .counterClick _ _ => some r
    | .idle => some r
    | _ => none
  | _ => none

/-- The record shape of a counter's props: a start count and a label. -/
def counterShape : Shape := .record [("start", .int .int), ("label", .text)]

/-- A filled template as a rendered node: a list becomes a node and nothing the empty node. -/
def Value.rendered : Value → Value
  | .list items => .node items
  | .null => .node []
  | v => v

/-- What a script's render call number `k` renders: its `k`-th template, or its last one once
they run out, filled in a context; a script without templates renders the empty node. -/
def Script.output (s : Script) (k : Nat) (c : FillContext) : Value :=
  match s.renders with
  | [] => .node []
  | first :: _ => ((s.renders.getD (Nat.min k (s.renders.length - 1)) first).fill c).rendered

/-- The time a clock shows: the world's clock stands at the epoch. -/
def clockTime : String := "1970-01-01T00:00:00Z"

/-- The marks a classified prop leaves on an element, in order: a class name, data attributes, a
boolean property (false deletes it and sets `x-` and the name instead), and a plain attribute.
Event props leave none. -/
def Attr.mark {L : Type} (p : Attr) (el : Nat) (d : Host.Document L) : Host.Document L :=
  let d := if p.isClass then d.addClass el p.value.text else d
  let d := match p.data with
    | some entries => entries.foldl (fun d kv => d.setDataset el kv.1 kv.2.text) d
    | none => d
  let d := match p.flag with
    | some true => d.setProperty el p.name (.bool true)
    | some false => (d.deleteProperty el p.name).setProperty el ("x-" ++ p.name) (.bool false)
    | none => d
  if p.isPlain then d.setAttribute el p.name p.value.text else d

namespace Run

/-- The capability of a name through a typed accessor, stopping the run when it is missing or
mistyped. -/
def typedCap (caps : Nat) (name : String) (t : CapType) : Run Value := do
  match (← capset caps).typed name t with
  | .ok v => pure v
  | .error f => capabilityFailed f

/-- Calls a state constructor. -/
def callState (_ : Value) (init : Option (List (String × Value))) : Run Nat := newState init

/-- Calls a log function. -/
def callLog (f : Value) (args : List Value) : Run Unit :=
  match f with
  | .routine (.log .trace _) => note (.log args)
  | _ => pure ()

/-- Calls a timer-starting function. -/
def callTimer (f : Value) : Run Nat :=
  match f with
  | .routine (.setTimer t _) => startTimer t
  | _ => pure 0

/-- Calls a timer-stopping function. -/
def callClear (f : Value) (id : Nat) : Run Unit :=
  match f with
  | .routine (.clearTimer t) => stopTimer t id
  | _ => pure ()

/-- Calls a subscribing function, returning the disposer. -/
def callOn (f : Value) (topic : String) (s : Subscriber) : Run Disposer :=
  match f with
  | .routine (.on true) => do
    let w ← get
    let (bus, id) := w.bus.subscribe topic s
    set { w with bus }
    pure (.bus topic id)
  | _ => do
    mark ("fake_on:" ++ topic)
    pure .idle

/-- Calls a disposer. -/
def dispose (d : Disposer) : Run Unit :=
  match d with
  | .bus topic id => modify (fun w => { w with bus := w.bus.remove topic id })
  | .idle => pure ()

/-- The plain text of a value as the string backend writes it: escaped when the renderer escapes. -/
def textOf (r : Nat) (s : String) : Run String := do
  pure (if (← renderer r).escape then Text.escape s else s)

/-- The attributes of props as markup for the string backend: keys starting with `on` are left
out, data mappings expand, truth values become empty attributes (`x-` for false). -/
def attrMarkup (r : Nat) (props : Props) : Run String := do
  let mut out := ""
  for p in classify props do
    if p.name.startsWith "on" then
      continue
    match p.data, p.flag with
    | some entries, _ =>
      for (k, v) in entries do
        out := out ++ " data-" ++ k ++ "=\"" ++ (← textOf r v.text) ++ "\""
    | none, some b =>
      out := out ++ " " ++ (if b then p.name else "x-" ++ p.name) ++ "=\"\""
    | none, none =>
      out := out ++ " " ++ p.name ++ "=\"" ++ (← textOf r p.value.text) ++ "\""
  pure out

/-- Applies one classified prop to a mount point's element: its marks, then, for an event prop on
the first render, its listener. An event prop whose value is no handler fails unless it is a truth
value. -/
def applyProp (r id el : Nat) (first : Bool) (p : Attr) : Run Unit := do
  modifyDoc (p.mark el)
  if let some event := p.event then
    if first then
      match p.value.handler? with
      | some h => modifyDoc (fun d => d.addListener el event (.mounted r id h))
      | none =>
        if p.flag.isNone then
          fail (.invalidNode (.badHandler p.name p.value.typeName))

/-- Applies classified props to a mount point's element, in order. -/
def applyProps (r id el : Nat) (props : List Attr) (first : Bool) : Run Unit := do
  for p in props do
    applyProp r id el first p

/-- Releases the mount points rendered inside a mount point's element. -/
def release (r id : Nat) : Run Unit := do
  match ← point? r id with
  | none => pure ()
  | some p =>
    let n ← dropPoints r p.kids
    modifyPoint r id (fun p => { p with kids := [] })
    if n > 0 then count r (fun m => { m with mountPoints := m.mountPoints - n })

/-- Makes a mount point live, counts it, and lists it last among the kids of its owner. -/
def register (r : Nat) (p : MountPoint) (owner : Option Nat) : Run Unit := do
  addPoint r p
  count r (fun m => { m with mountPoints := m.mountPoints + 1 })
  if let some o := owner then
    modifyPoint r o (fun q => { q with kids := q.kids ++ [p.id] })

/-- Creates a mount point's element and appends it to the container, returning its place. -/
def attach (r id container : Nat) (tag : String) : Run Nat := do
  let el ← createElement tag
  modifyDoc (fun d => d.appendChild container el)
  modifyPoint r id (fun p => { p with element := some el })
  pure el

/-- Removes the children of a mount point's element and releases the mount points rendered into
it. -/
def clearElement (r id el : Nat) : Run Unit := do
  modifyDoc (fun d => d.removeChildren el)
  release r id

/-- The element a host node rendered by a live mount point goes into: a new one appended to its
container on the first pass, else its own, cleared first when the renderer clears on update. -/
def hostElement (r id : Nat) (p : MountPoint) (tag : String) : Run Nat :=
  match p.element with
  | none => attach r id p.container tag
  | some el => do
    if (← renderer r).clearOnUpdate then clearElement r id el
    pure el

/-- The fill context of an instance for its actions. -/
def actionContext (i : Nat) : Run FillContext := do
  let ins ← inst i
  let state ← match ins.state with
    | some s => pure (some (← stateRecord s))
    | none => pure none
  pure ⟨state, ins.props, [], ins.renders, some i, ins.name⟩

/-- Creates an instance of a script, returning its place. -/
def newInstance (script : Nat) (name : String) (caps : Nat) (props : Props) : Run Nat := do
  let w ← get
  set { w with instances := w.instances.push ⟨script, name, caps, none, props, 0, #[]⟩ }
  pure w.instances.size

end Run

mutual
/-- Runs a component's setup with props and a capability set, returning its render function.
A setup that returns no render function fails. -/
def Run.instantiate : Nat → Component → String → Props → Nat → Run RenderFn
  | 0, _, _, _, _ => throw .exhausted
  | fuel + 1, comp, name, props, caps =>
    match comp with
    | .demo .godspeedYou => pure .godspeedYou
    | .demo .stateful => do
      let f ← Run.typedCap caps "state" .state
      let _ ← Run.callState f (some [("count", .int .int 0)])
      pure .stateful
    | .demo .counter => do
      let out := decodeProps (← get).program.decode counterShape props
      if let some message := out.failure then
        let f ← Run.typedCap caps "log" .log
        Run.callLog f [.str "counter: ", .error message]
      let start := match out.value.field "start" with
        | some (.int _ n) => n
        | _ => 0
      let label := match out.value.field "label" with
        | some (.text s) => if s.isEmpty then "Clicked" else s
        | _ => "Clicked"
      let f ← Run.typedCap caps "state" .state
      let st ← Run.callState f (some [("count", .int .int start)])
      pure (.counter label st caps)
    | .demo .greeter => do
      let f ← Run.typedCap caps "state" .state
      let st ← Run.callState f (some [("who", .str "nobody")])
      let on ← Run.typedCap caps "on" .on
      let _ ← Run.callOn on "greet" (.greeter st)
      pure (.greeter st)
    | .demo .clock => do
      let f ← Run.typedCap caps "setTimeout" .setTimer
      let id ← Run.callTimer f
      let c ← Run.typedCap caps "clearTimeout" .clearTimer
      Run.callClear c id
      pure .clock
    | .demo .page => pure .page
    | .script s => do
      spend
      let script := (← get).program.scripts.getD s default
      mark ("setup:" ++ script.name)
      let i ← Run.newInstance s script.name caps props
      match script.seed with
      | .seed init =>
        let f ← Run.typedCap caps "state" .state
        let st ← Run.callState f init
        modifyInst i (fun ins => { ins with state := some st })
      | .none => pure ()
      let _ ← Run.actions fuel (some i) script.setup
      if script.returnsNil then fail (.invalidComponent name) else pure (.script i)

/-- Calls a render function with props and children, returning the node it renders. -/
def Run.callRender : Nat → RenderFn → Props → List Value → Run Value
  | 0, _, _, _ => throw .exhausted
  | _ + 1, fn, props, children =>
    match fn with
    | .host tag =>
      pure (.node (.str tag :: ((match props with
        | some p => [Value.props (some p)]
        | none => []) ++ children)))
    | .godspeedYou => pure (.node [.str "b", .str ("Godspeed you, " ++ (props.get "who").show ++ "!")])
    | .stateful =>
      pure (.node [.str fragmentTag, .node [.str "button",
        .props (some [("class", .str "btn"), ("data", .props (some [("bla", .str "blubb")])),
          ("disabled", .bool false)]),
        .str "Click Me! (", props.get "count", .str ",", .int .int 42, .str ")"]])
    | .counter label st caps => do
      let shown := (← stateRecord st).get "count"
      pure (.node [.str "button",
        .props (some [("class", .str "counter"), ("onclick", .routine (.counterClick st caps))]),
        .str label, .str " ", shown])
    | .greeter st => do
      let who := (← stateRecord st).get "who"
      pure (.node [.str "p", .props (some [("class", .str "greeter"), ("onclick", .routine .idle)]),
        .str "Hello, ", who])
    | .clock => pure (.node [.str "time", .props (some [("datetime", .str clockTime)]), .str clockTime])
    | .page =>
      let body := [.str fragmentTag, .node [.str "h1", props.get "title"],
        .node [.component (.demo .godspeedYou) .component, .props (some [("who", .str "Black Emperor")])],
        .node [.component (.demo .stateful) .component, .props (some [("count", .int .int 23)])],
        .node [.component (.demo .counter) .component, .props (some [("start", .int .int 0)])]] ++ children
      pure (.node [.str "main", .props (some [("class", .str "page")]), .node body])
    | .script i => do
      spend
      let ins ← Run.inst i
      let script := (← get).program.scripts.getD ins.script default
      let k := ins.renders
      mark ("render:" ++ ins.name ++ ":" ++ toString k)
      modifyInst i (fun ins => { ins with renders := k + 1, props := props })
      let state ← match ins.state with
        | some s => pure (some (← stateRecord s))
        | none => pure none
      pure (script.output k ⟨state, props, children, k, some i, ins.name⟩)

/-- Renders a value to markup with a renderer. -/
def Run.renderString : Nat → Nat → Value → Run String
  | 0, _, _ => throw .exhausted
  | fuel + 1, r, v =>
    match v.asNode? with
    | none => Run.textOf r v.text
    | some items =>
      match split items with
      | none => pure ""
      | some parts =>
        match parts.tag.component? with
        | some (c, form) => do
          let caps ← compose (← renderer r).plugins .none
          let fn ← Run.instantiate fuel c (c.name form) parts.props caps
          count r (fun m => { m with setups := m.setups + 1 })
          let expr ← Run.callRender fuel fn parts.props parts.children
          count r (fun m => { m with renders := m.renders.bump "string" })
          Run.renderString fuel r expr
        | none =>
          if parts.tag.isFragment then Run.renderAll fuel r parts.children
          else
            match parts.tag with
            | .str name => do
              let attrs ← Run.attrMarkup r parts.props
              let inner ← Run.renderAll fuel r parts.children
              pure ("<" ++ name ++ attrs ++ ">" ++ inner ++ "</" ++ name ++ ">")
            | other => fail (.invalidNode (.unsupportedTag other.typeName))

/-- Renders values one after another. -/
def Run.renderAll : Nat → Nat → List Value → Run String
  | 0, _, _ => throw .exhausted
  | _ + 1, _, [] => pure ""
  | fuel + 1, r, v :: rest => do
    let first ← Run.renderString fuel r v
    let others ← Run.renderAll fuel r rest
    pure (first ++ others)

/-- Mounts a node into a container element, as a kid of an owning mount point if given. -/
def Run.mount : Nat → Nat → Value → Nat → Option Nat → Run Unit
  | 0, _, _, _, _ => throw .exhausted
  | fuel + 1, r, v, container, owner =>
    match v.asNode? with
    | none => fail (.invalidNode (.cannotMount v.typeName))
    | some items =>
      match split items with
      | none => fail (.invalidNode (.cannotMount v.typeName))
      | some parts => do
        let id ← reserve r
        let (name, fn) ← match parts.tag.component? with
          | some (c, form) => do
            let name := c.name form
            let caps ← compose (← renderer r).plugins (.mountPoint r id)
            let fn ← Run.instantiate fuel c name parts.props caps
            count r (fun m => { m with setups := m.setups + 1 })
            pure (name, fn)
          | none =>
            match parts.tag with
            | .str s => pure (s, RenderFn.host s)
            | other => fail (.invalidNode (.unsupportedTag other.typeName))
        register r ⟨id, name, container, none, fn, parts.props, parts.children, false, []⟩ owner
        Run.renderPhase fuel r id true

/-- Calls a mount point's render function and applies what it renders: a fragment's children go
into the container, a component is mounted, a host node's element is created on the first pass
(and cleared on later ones when the renderer clears on update) before its props and children are
applied. -/
def Run.renderPhase : Nat → Nat → Nat → Bool → Run Unit
  | 0, _, _, _ => throw .exhausted
  | fuel + 1, r, id, first => do
    modifyPoint r id (fun p => { p with rendering := true })
    andFinally (do
      match ← point? r id with
      | none => pure ()
      | some p =>
        let expr ← Run.callRender fuel p.render p.props p.children
        count r (fun m => { m with renders := m.renders.bump "dom" })
        match expr.asNode?.bind split with
        | none => fail (.invalidNode (.emptyRender p.name))
        | some parts =>
          if parts.tag.isFragment then Run.mountChildren fuel r parts.children p.container id
          else if (parts.tag.component?).isSome then Run.mount fuel r expr p.container (some id)
          else
            match parts.tag with
            | .str name => do
              let el ← hostElement r id p name
              Run.applyProps r id el (classify parts.props) first
              Run.mountChildren fuel r parts.children el id
            | other => fail (.invalidNode (.unsupportedTag other.typeName)))
      (modifyPoint r id (fun p => { p with rendering := false }))

/-- Mounts node children and appends the text of the others. -/
def Run.mountChildren : Nat → Nat → List Value → Nat → Nat → Run Unit
  | 0, _, _, _, _ => throw .exhausted
  | _ + 1, _, [], _, _ => pure ()
  | fuel + 1, r, c :: rest, into, owner => do
    if c.asNode?.isSome then Run.mount fuel r c into (some owner)
    else modifyDoc (fun d => d.appendText into c.text)
    Run.mountChildren fuel r rest into owner

/-- Repeats the render phase of a mounted mount point; a failed capability check becomes its
failure. -/
def Run.update : Nat → Nat → Nat → Run Unit
  | 0, _, _ => throw .exhausted
  | fuel + 1, r, id => recover (Run.renderPhase fuel r id false)

/-- Calls a re-render trigger: nothing for the string backend's trigger, for a mount point that is
gone, or for one that is rendering. -/
def Run.fire : Nat → TriggerTarget → Run Unit
  | 0, _ => throw .exhausted
  | fuel + 1, target =>
    match target with
    | .none => pure ()
    | .mountPoint r id => do
      match ← point? r id with
      | none => pure ()
      | some p => if p.rendering then pure () else Run.update fuel r id

/-- Delivers an event to an element's listeners, in order; their failures are joined. -/
def Run.dispatch : Nat → Event → Run (Option Failure)
  | 0, _ => throw .exhausted
  | fuel + 1, ev => do
    let listeners := (← get).doc.listenersOf ev.target ev.type
    let mut failures : List Failure := []
    for l in listeners do
      match ← attempt (Run.listen fuel l ev) with
      | .ok () => pure ()
      | .error f => failures := failures ++ [f]
    pure (Failure.join failures)

/-- Runs one listener on an event. -/
def Run.listen : Nat → Listener → Event → Run Unit
  | 0, _, _ => throw .exhausted
  | fuel + 1, l, ev =>
    match l with
    | .recorder id failure => do
      note (.listener id ev.type ((← get).doc.tagOf ev.target) ev.detail)
      if let some message := failure then fail (.plain message)
    | .mounted r id h => recover do
      count r (fun m => { m with events := m.events.bump ev.type })
      match ← Run.callHandler fuel h (some ev) with
      | some f => fail f
      | none =>
        if (← point? r id).isSome then Run.update fuel r id

/-- Calls an event handler, returning the failure it reports (only handlers that return one do). -/
def Run.callHandler : Nat → Routine → Option Event → Run (Option Failure)
  | 0, _, _ => throw .exhausted
  | fuel + 1, h, ev =>
    match h with
    | .handler shape owner label body => do
      spend
      let eventPart ← match shape, ev with
        | .eventError, some e => pure (":" ++ e.type ++ ":" ++ (← get).doc.tagOf e.target)
        | .event, some e => pure (":" ++ e.type ++ ":" ++ (← get).doc.tagOf e.target)
        | _, _ => pure ""
      mark ("handler:" ++ (if owner.isSome then label else "-") ++ eventPart)
      let acts := (← get).program.bodies.getD body []
      let result ← Run.actions fuel owner acts
      match shape, result with
      | .eventError, some m => pure (some (.handler m))
      | .error, some m => pure (some (.handler m))
      | _, _ => pure none
    | .counterClick st caps => do
      let n := match (← stateRecord st).get "count" with
        | .int .int n => n
        | _ => 0
      setState st "count" (.int .int (IntKind.int.wrap (n + 1)))
      let f ← Run.typedCap caps "log" .log
      Run.callLog f [.str "counter clicked"]
      pure none
    | _ => pure none

/-- Runs actions in order until one fails, returning its message. Without an instance every
action but a failure is only traced. -/
def Run.actions : Nat → Option Nat → List Action → Run (Option String)
  | 0, _, _ => throw .exhausted
  | _ + 1, _, [] => pure none
  | fuel + 1, owner, act :: rest => do
    spend
    let result ← match owner with
      | none =>
        match act with
        | .fail m => pure (some m)
        | _ => do
          mark ("noinst:" ++ act.name)
          pure none
      | some i => Run.action fuel i act
    match result with
    | some m => pure (some m)
    | none => Run.actions fuel owner rest

/-- Runs one action of an instance. -/
def Run.action : Nat → Nat → Action → Run (Option String)
  | 0, _, _ => throw .exhausted
  | fuel + 1, i, act => do
    let ins ← Run.inst i
    let ctx ← Run.actionContext i
    match act with
    | .set key t =>
      match ins.state with
      | some s => setState s key (t.fill ctx)
      | none => mark "nostate:set"
      pure none
    | .inc key =>
      match ins.state with
      | some s =>
        let n := match (← stateRecord s).get key with
          | .int .int n => n
          | _ => 0
        setState s key (.int .int (IntKind.int.wrap (n + 1)))
      | none => mark "nostate:inc"
      pure none
    | .log args =>
      let f ← Run.typedCap ins.caps "log" .log
      Run.callLog f (args.map (fun t => t.fill ctx))
      pure none
    | .emit topic t =>
      let f ← Run.typedCap ins.caps "emit" .emit
      Run.callEmit fuel f topic (t.fill ctx)
      pure none
    | .on topic key rerender =>
      let f ← Run.typedCap ins.caps "on" .on
      let d ← Run.callOn f topic (.scripted i topic key rerender)
      modifyInst i (fun ins => { ins with disposers := ins.disposers.push d })
      pure none
    | .dispose index =>
      match (if index < 0 then none else ins.disposers[index.toNat]?) with
      | some d => Run.dispose d
      | none => mark "dispose:none"
      pure none
    | .trigger =>
      Run.triggerInstance fuel i
      pure none
    | .cap name =>
      Run.checkCap fuel ins.caps name
      pure none
    | .has name =>
      mark ("has:" ++ name ++ ":" ++ toString ((← capset ins.caps).has name))
      pure none
    | .names =>
      note (.names (← capset ins.caps).names)
      pure none
    | .snapshot =>
      match ins.state with
      | some s => do
        let rec_ ← stateRecord s
        note (.snapshot rec_.snapshot rec_.keys)
      | none => note (.snapshot [] [])
      pure none
    | .fail m => pure (some m)

/-- Calls an instance's re-render capability and traces the outcome. -/
def Run.triggerInstance : Nat → Nat → Run Unit
  | 0, _ => throw .exhausted
  | fuel + 1, i => do
    let ins ← Run.inst i
    match (← capset ins.caps).lookup? "rerender" with
    | none => mark ("trigger:" ++ ins.name ++ ":absent")
    | some (.routine (.trigger target)) =>
      match ← attempt (Run.fire fuel target) with
      | .ok () => mark ("trigger:" ++ ins.name ++ ":ok")
      | .error f => note (.triggerFailed ins.name f)
    | some _ => mark ("trigger:" ++ ins.name ++ ":mistyped")

/-- Exercises one capability of a set through its typed accessor, tracing what it did. -/
def Run.checkCap : Nat → Nat → String → Run Unit
  | 0, _, _ => throw .exhausted
  | fuel + 1, caps, name =>
    match name with
    | "fragment" => do
      let v ← Run.typedCap caps "fragment" .fragment
      mark ("fragment:" ++ v.text)
    | "state" => do
      let f ← Run.typedCap caps "state" .state
      let st ← Run.callState f (some [("x", .f64 (Number.Binary64.ofInt 1))])
      note (.newState (← stateRecord st).keys)
    | "log" => do
      let f ← Run.typedCap caps "log" .log
      Run.callLog f [.str "cap", .f64 (Number.Binary64.ofInt 1)]
    | "setTimeout" => do
      let f ← Run.typedCap caps "setTimeout" .setTimer
      let id ← Run.callTimer f
      mark ("setTimeout:" ++ toString id)
    | "setInterval" => do
      let f ← Run.typedCap caps "setInterval" .setTimer
      let id ← Run.callTimer f
      let c ← Run.typedCap caps "clearInterval" .clearTimer
      Run.callClear c id
      mark ("setInterval:" ++ toString id)
    | "clearTimeout" => do
      let c ← Run.typedCap caps "clearTimeout" .clearTimer
      Run.callClear c 0
      mark "clearTimeout"
    | "clearInterval" => do
      let c ← Run.typedCap caps "clearInterval" .clearTimer
      Run.callClear c 0
      mark "clearInterval"
    | "timeout" => do
      let f ← Run.typedCap caps "setTimeout" .setTimer
      let id ← Run.callTimer f
      let c ← Run.typedCap caps "clearTimeout" .clearTimer
      Run.callClear c id
      mark ("timeout:" ++ toString id)
    | "emit" => do
      let f ← Run.typedCap caps "emit" .emit
      Run.callEmit fuel f "cap" .null
      mark "emit"
    | "on" => do
      let f ← Run.typedCap caps "on" .on
      let d ← Run.callOn f "cap" .silent
      Run.dispose d
      mark "on"
    | "fetch" => do
      match (← capset caps).lookup? "fetch" with
      | some (.routine (.fetch true)) => mark "fetch:real"
      | _ => do
        let _ ← Run.typedCap caps "fetch" .fetch
        mark "fetch:offline"
    | _ => pure ()

/-- Calls an emit function: on the bus, or only traced for a stand-in. -/
def Run.callEmit : Nat → Value → String → Value → Run Unit
  | 0, _, _, _ => throw .exhausted
  | fuel + 1, f, topic, data =>
    match f with
    | .routine (.emit true) => Run.emitOnBus fuel topic data
    | _ => note (.fakeEmit topic data)

/-- Emits on the bus: each subscriber of the topic, as they stand now, receives the data. -/
def Run.emitOnBus : Nat → String → Value → Run Unit
  | 0, _, _ => throw .exhausted
  | fuel + 1, topic, data => do
    let subs := (← get).bus.subscribers topic
    for s in subs do
      spend
      Run.deliver fuel s topic data

/-- Delivers data to one subscriber. -/
def Run.deliver : Nat → Subscriber → String → Value → Run Unit
  | 0, _, _, _ => throw .exhausted
  | fuel + 1, s, topic, data =>
    match s with
    | .recording id acts => do
      note (.recv id none data)
      Run.busActs fuel acts
    | .greeter st => setState st "who" data
    | .scripted i _ key rerender => do
      let ins ← Run.inst i
      note (.recv (.str ins.name) (some topic) data)
      if let some k := key then
        if let some st := ins.state then setState st k data
      if rerender then Run.triggerInstance fuel i
    | .silent => pure ()

/-- Runs the steps of a recording bus subscriber. -/
def Run.busActs : Nat → List BusAct → Run Unit
  | 0, _ => throw .exhausted
  | _ + 1, [] => pure ()
  | fuel + 1, a :: rest => do
    match a with
    | .dispose index =>
      let w ← get
      match (if index < 0 then none else w.busDisposers[index.toNat]?) with
      | some d => Run.dispose d
      | none => pure ()
    | .on topic id acts =>
      let d ← Run.callOn (.routine (.on true)) topic (.recording id acts)
      let w ← get
      set { w with busDisposers := w.busDisposers.push d }
      mark ("subscribed:" ++ toString w.busDisposers.size)
    | .emit topic data => Run.emitOnBus fuel topic data
    | .count topic => mark ("count:" ++ toString ((← get).bus.count topic))
    Run.busActs fuel rest
end

end ViewEngine
