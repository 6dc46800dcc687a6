import ViewEngine.Scenario.Records

/-!
Document scenarios: steps that build and inspect a host document directly. Element 0 is the body;
each created element takes the next place.
-/

namespace ViewEngine

namespace Scenario

open Run

/-- A step on a document. -/
inductive DocStep where
  | create (tag : String)
  | append (parent child : Nat)
  | text (el : Nat) (data : String)
  | clear (el : Nat)
  | addClass (el : Nat) (name : String)
  | dataset (el : Nat) (key value : String)
  | attr (el : Nat) (name value : String)
  | prop (el : Nat) (name : String) (v : Value)
  | delprop (el : Nat) (name : String)
  | listen (el : Nat) (event : String) (id : Value) (failure : Option String)
  | dispatch (el : Nat) (type : String) (detail : Value)
  | click (el : Nat)
  | outer (el : Nat)
  | inner (el : Nat)
  | textContent (el : Nat)
  | getattr (el : Nat) (name : String)
  | getprop (el : Nat) (name : String)
  | classes (el : Nat)
  | children (el : Nat)
  | childCount (el : Nat)
  | find (el : Nat) (tag : String)
  | parent (el : Nat)
  | listeners (el : Nat) (event : String)
  | tag (el : Nat)
  | escape (s : String)

/-- Reads a document step. -/
def docStep (j : Json) : Reading DocStep := do
  let n (x : Json) : Nat := (natOf x).getD 0
  match j with
  | .obj [(key, arg)] =>
    match key, arg with
    | "create", .str t => pure (.create t)
    | "append", .arr [p, c] => pure (.append (n p) (n c))
    | "text", .arr [e, .str s] => pure (.text (n e) s)
    | "clear", e => pure (.clear (n e))
    | "class", .arr [e, .str s] => pure (.addClass (n e) s)
    | "dataset", .arr [e, .str k, .str v] => pure (.dataset (n e) k v)
    | "attr", .arr [e, .str k, .str v] => pure (.attr (n e) k v)
    | "prop", .arr [e, .str k, v] => do pure (.prop (n e) k (← readValue v))
    | "delprop", .arr [e, .str k] => pure (.delprop (n e) k)
    | "listen", .arr (e :: .str ev :: id :: rest) => do
      let failure := match rest with
        | [.str m] => some m
        | _ => none
      pure (.listen (n e) ev (← readValue id) failure)
    | "dispatch", .arr (e :: .str t :: rest) => do
      let detail ← match rest with
        | [d] => readValue d
        | _ => pure .null
      pure (.dispatch (n e) t detail)
    | "click", e => pure (.click (n e))
    | "outer", e => pure (.outer (n e))
    | "inner", e => pure (.inner (n e))
    | "textContent", e => pure (.textContent (n e))
    | "getattr", .arr [e, .str k] => pure (.getattr (n e) k)
    | "getprop", .arr [e, .str k] => pure (.getprop (n e) k)
    | "classes", e => pure (.classes (n e))
    | "children", e => pure (.children (n e))
    | "childCount", e => pure (.childCount (n e))
    | "find", .arr [e, .str t] => pure (.find (n e) t)
    | "parent", e => pure (.parent (n e))
    | "listeners", .arr [e, .str ev] => pure (.listeners (n e) ev)
    | "tag", e => pure (.tag (n e))
    | "escape", .str s => pure (.escape s)
    | other, _ => refuse ("unknown document step " ++ other)
  | _ => refuse "document step"

/-- An optional element place as JSON. -/
def placeJson : Option Nat → Json
  | some i => natJson i
  | none => .null

/-- Runs one document step, returning its result; `none` refuses an append that makes a cycle. -/
def runDocStep (step : DocStep) : Run (Option Json) := do
  let doc := (← get).doc
  match step with
  | .create t => pure (some (natJson (← createElement t)))
  | .append p c =>
    if doc.reaches c p then pure none
    else do modifyDoc (fun d => d.appendChild p c); pure (some .null)
  | .text e s => do modifyDoc (fun d => d.appendText e s); pure (some .null)
  | .clear e => do modifyDoc (fun d => d.removeChildren e); pure (some .null)
  | .addClass e s => do modifyDoc (fun d => d.addClass e s); pure (some .null)
  | .dataset e k v => do modifyDoc (fun d => d.setDataset e k v); pure (some .null)
  | .attr e k v => do modifyDoc (fun d => d.setAttribute e k v); pure (some .null)
  | .prop e k v => do modifyDoc (fun d => d.setProperty e k v); pure (some .null)
  | .delprop e k => do modifyDoc (fun d => d.deleteProperty e k); pure (some .null)
  | .listen e ev id failure => do
    modifyDoc (fun d => d.addListener e ev (.recorder id failure))
    pure (some .null)
  | .dispatch e t detail => do
    let failure ← dispatchOn e t detail
    pure (some (.obj [("err", optionalFailure failure), ("trace", traceJson (← takeTrace))]))
  | .click e => do
    let failure ← click e
    pure (some (.obj [("err", optionalFailure failure), ("trace", traceJson (← takeTrace))]))
  | .outer e => pure (some (.str (doc.outerHTML e)))
  | .inner e => pure (some (.str (doc.innerHTML e)))
  | .textContent e => pure (some (.str (doc.textContent e)))
  | .getattr e k =>
    let found := doc.attribute? e k
    pure (some (.obj [("value", .str (found.getD "")), ("ok", .bool found.isSome)]))
  | .getprop e k =>
    let found := (doc.get? e).bind (fun el => el.props.get? k)
    pure (some (.obj [("value", encode (found.getD .null)), ("ok", .bool found.isSome)]))
  | .classes e => pure (some (textsJson ((doc.get? e).map Host.Element.classes |>.getD [])))
  | .children e => pure (some (.arr ((doc.childElements e).map natJson)))
  | .childCount e => pure (some (natJson ((doc.get? e).map (fun el => el.children.length) |>.getD 0)))
  | .find e t => pure (some (placeJson (doc.find? e t)))
  | .parent e => pure (some (placeJson ((doc.get? e).bind Host.Element.parent)))
  | .listeners e ev => pure (some (natJson (doc.listenersOf e ev).length))
  | .tag e => pure (some (.str (doc.tagOf e)))
  | .escape s => pure (some (.str (Text.escape s)))

/-- Runs document steps on a fresh document holding only the body. -/
def documentAnswer (j : Json) : Json :=
  match ((((j.get? "steps").bind Json.arr?).getD []).mapM docStep).run Program.linked with
  | .error message => driverError message
  | .ok (steps, program) =>
    finish (do
      let _ ← createElement "body"
      let mut results : List Json := []
      for step in steps do
        match ← runDocStep step with
        | some r => results := results ++ [r]
        | none => return driverError "append would make a cycle"
      pure (.obj [("steps", .arr results)])) (World.fresh program #[Renderer.default])

end Scenario

end ViewEngine
