import ViewEngine.Scenario.Setup
import ViewEngine.Engine.Api

/-!
Rendering scenarios: rendering a node to markup through one of the renderers, and the test helpers
that mount a node into a fresh document, click elements and look for texts in the markup.
-/

namespace ViewEngine

namespace Scenario

open Run

/-- Whether a text occurs in another. -/
def occursIn (needle hay : String) : Bool :=
  let n := needle.toList
  let rec go : Nat → List Char → Bool
    | 0, _ => false
    | fuel + 1, cs => n.isPrefixOf cs || (match cs with
      | [] => false
      | _ :: rest => go fuel rest)
  go (hay.length + 1) hay.toList

/-- Reads a scenario's renderer options and one value member. -/
def readSetup (j : Json) (key : String) : Except String ((RendererSpec × Value) × Program) :=
  (do
    let spec ← rendererSpec ((j.get? "renderer").getD .null)
    let v ← readValue ((j.get? key).getD .null)
    pure (spec, v)).run Program.linked

/-- Renders a node to markup with the configured renderer, the default one, or the one test
helpers build, and reports the markup (or failure), the trace and the plugin count. -/
def renderAnswer (j : Json) : Json :=
  match readSetup j "node" with
  | .error message => driverError message
  | .ok ((spec, node), program) =>
    match spec.build with
    | .error f => failureJson f
    | .ok r =>
      let target := match textFieldOr j "via" "string" with
        | "test" => forTests
        | "global" => standard
        | _ => configured
      finish (do
        let out ← renderToString target node
        let trace ← takeTrace
        let count := natJson (← renderer configured).plugins.length
        let members := match out with
          | .ok html => [("html", Json.str html), ("trace", traceJson trace), ("plugins", count)]
          | .error f => failureMembers f ++ [("trace", traceJson trace), ("plugins", count)]
        pure (.obj (← withMetrics members))) (worldFor program spec r)

/-- The outcome of a test render: the markup last read and the container it came from. -/
structure TestResult where
  /-- The markup. -/
  html : String
  /-- The container, unless the result is detached. -/
  container : Option Nat

/-- The first element with a tag in a test result's container. -/
def TestResult.find (t : TestResult) (tag : String) : Run (Option Nat) := do
  match t.container with
  | some c => pure ((← get).doc.find? c tag)
  | none => pure none

/-- Clicks the first element with a tag and reads the markup again; fails when there is none. -/
def TestResult.click (t : TestResult) (tag : String) : Run (TestResult × Option Failure) := do
  match ← t.find tag with
  | none => pure (t, some (.noElement tag))
  | some el =>
    let failure ← Run.click el
    match t.container with
    | some c => pure (⟨(← get).doc.innerHTML c, t.container⟩, failure)
    | none => pure (t, failure)

/-- The checks of a test result against texts: each one, all, any. -/
def containsMembers (html : String) (texts : List String) : List (String × Json) :=
  [("contains", .arr (texts.map (fun s => Json.bool (occursIn s html)))),
    ("all", .bool (texts.all (fun s => occursIn s html))),
    ("any", .bool (texts.any (fun s => occursIn s html)))]

/-- Mounts a node with the test helper's renderer, then clicks tags in turn, checking the markup
for texts after each step; a detached result is checked too. -/
def testHelpersAnswer (j : Json) : Json :=
  match readSetup j "node" with
  | .error message => driverError message
  | .ok ((spec, node), program) =>
    let texts := ((j.get? "contains").bind Json.arr?).getD [] |>.filterMap Json.str?
    let clicks := ((j.get? "clicks").bind Json.arr?).getD [] |>.filterMap Json.str?
    finish (do
      let body ← createElement "body"
      match ← mountInto forTests node body with
      | some f => pure (.obj (failureMembers f ++ [("trace", traceJson (← takeTrace))]))
      | none =>
        let start : TestResult := ⟨(← get).doc.innerHTML body, some body⟩
        let mountPart := Json.obj ([("html", Json.str start.html)] ++ containsMembers start.html texts ++
          [("trace", traceJson (← takeTrace))])
        let mut result := start
        let mut steps : List Json := []
        for tag in clicks do
          let (next, failure) ← result.click tag
          result := next
          let found ← result.find tag
          let doc := (← get).doc
          steps := steps ++ [Json.obj ([("html", Json.str result.html)] ++ containsMembers result.html texts ++
            [("trace", traceJson (← takeTrace)), ("err", optionalFailure failure),
             ("found", match found with
               | some el => Json.str (doc.tagOf el)
               | none => Json.null)])]
        let detached : TestResult := ⟨"x", none⟩
        let (_, detachedFailure) ← detached.click "x"
        let detachedFound ← detached.find "x"
        pure (.obj [("mount", mountPart), ("clicks", .arr steps),
          ("detached", .obj [("html", .str detached.html), ("find", .bool detachedFound.isNone),
            ("click", optionalFailure detachedFailure)])])) (worldFor program spec Renderer.default)

end Scenario

end ViewEngine
