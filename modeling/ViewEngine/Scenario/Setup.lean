import ViewEngine.Scenario.Notation
import ViewEngine.Scenario.Encode
import ViewEngine.Props.Decode
import ViewEngine.Engine.Run

/-!
Setting up a scenario: the renderer it configures (flavor, extra plugins, plugin list, escaping,
clearing on update, counters), the world it runs in, and running it to an answer.
-/

namespace ViewEngine

namespace Scenario

open Run

/-- The renderer options a scenario gives. -/
structure RendererSpec where
  /-- The flavor to look up, if any. -/
  flavor : Option String
  /-- Plugins appended to the flavor's. -/
  extra : List Plugin
  /-- A plugin list replacing the flavor's. -/
  plugins : Option (List Plugin)
  /-- Whether to escape. -/
  escape : Bool
  /-- Whether to clear on update. -/
  clear : Bool
  /-- Whether to keep counters. -/
  metrics : Bool

/-- Reads renderer options (an absent or null object gives the defaults). -/
def rendererSpec (j : Json) : Reading RendererSpec := do
  let flavor := match j.get? "flavor" with
    | some (.str s) => some s
    | _ => none
  let extra ← plugins ((j.get? "with").getD (.arr []))
  let list ← match j.get? "plugins" with
    | some (.arr items) => do pure (some (← items.mapM plugin))
    | _ => pure none
  pure ⟨flavor, extra, list, flagField j "escape", flagField j "clear", flagField j "metrics"⟩

/-- The renderer options configure: the flavor's plugins (with the extras), replaced by an explicit
list, and the options. An unknown flavor fails. -/
def RendererSpec.build (s : RendererSpec) : Except Failure Renderer := do
  let base ← match s.flavor with
    | some name => do
      let f ← Flavor.byName name
      pure (f.extend s.extra).plugins
    | none => pure Flavor.safe.plugins
  let list := s.plugins.getD base
  pure ⟨list, s.escape, s.clear, if s.metrics then some Metrics.zero else none, 0, []⟩

/-- The renderer a test helper builds: only the escaping and the plugin list are honoured. -/
def RendererSpec.forTests (s : RendererSpec) : Renderer :=
  ⟨s.plugins.getD Flavor.safe.plugins, s.escape, false, none, 0, []⟩

/-- The place of the configured renderer. -/
def configured : Nat := 0

/-- The place of the default renderer. -/
def standard : Nat := 1

/-- The place of the renderer test helpers build. -/
def forTests : Nat := 2

/-- A world with the configured, default and test renderers. -/
def worldFor (program : Program) (spec : RendererSpec) (r : Renderer) : World :=
  World.fresh program #[r, Renderer.default, spec.forTests]

/-- Takes the trace so far, leaving it empty. -/
def takeTrace : Run (List Note) := do
  let w ← get
  set { w with trace := #[] }
  pure w.trace.toList

/-- The answer of a scenario that failed outside the engine's rules. -/
def driverError (message : String) : Json :=
  .obj [("error", .str "DriverError"), ("message", .str message)]

/-- Runs a scenario step in a world, returning its answer; an exhausted budget or a failure that
nothing caught becomes the corresponding answer. -/
def finish (m : Run Json) (w : World) : Json :=
  match m.run w with
  | .ok j _ => j
  | .error .exhausted _ => driverError "step budget exhausted"
  | .error (.fail f) _ => failureJson f
  | .error (.capability f) _ => .obj [("error", .str "Panic"), ("message", .str f.message)]

/-- Adds the counters of the configured renderer to an answer when it keeps them. -/
def withMetrics (members : List (String × Json)) : Run (List (String × Json)) := do
  match (← renderer configured).metrics with
  | some m => pure (members ++ [("metrics", metricsJson m)])
  | none => pure members

end Scenario

end ViewEngine
