import Mathlib
import ViewEngine.Proofs.Engine.Depth

/-! Steps confined to the core of a world. The setup and the render calls of a component that uses
no capability read and change only the state records, the instances, the trace and the step budget,
and read the program: started from two worlds with the same core and program, such a step ends alike
in both, with the same result or stop and the same new core, each world keeping the rest of itself.
The bundled greeting and the scripts that seed no state and set up with state and trace steps alone
are such components, and every render call is such a step. -/

namespace ViewEngine

/-- The part of a world that the setups and render calls of components without capabilities read
and change, besides the program they read. -/
structure World.Core where
  /-- The state records. -/
  states : Array StateRecord
  /-- The scripted instances. -/
  instances : Array Instance
  /-- The trace. -/
  trace : Array Note
  /-- Steps left. -/
  budget : Nat

/-- The core of a world. -/
def World.core (w : World) : World.Core := ⟨w.states, w.instances, w.trace, w.budget⟩

/-- A world with its core replaced. -/
def World.graft (w : World) (c : World.Core) : World :=
  { w with states := c.states, instances := c.instances, trace := c.trace, budget := c.budget }

namespace World

@[simp] theorem core_graft (w : World) (c : World.Core) : (w.graft c).core = c := rfl

@[simp] theorem graft_graft (w : World) (c c' : World.Core) : (w.graft c).graft c' = w.graft c' := rfl

@[simp] theorem graft_core (w : World) : w.graft w.core = w := rfl

@[simp] theorem program_graft (w : World) (c : World.Core) : (w.graft c).program = w.program := rfl

@[simp] theorem doc_graft (w : World) (c : World.Core) : (w.graft c).doc = w.doc := rfl

@[simp] theorem renderers_graft (w : World) (c : World.Core) : (w.graft c).renderers = w.renderers := rfl

@[simp] theorem capsets_graft (w : World) (c : World.Core) : (w.graft c).capsets = w.capsets := rfl

/-- A world with the same core as another is that core grafted onto it. -/
theorem graft_of_core {w w' : World} (same : w.core = w'.core) : w.graft w'.core = w := by
  rw [← same, graft_core]

end World

namespace Run

variable {α β : Type} {prog : Program}

/-- A run's outcome carried onto another world: the same result or stop, with the core it left
grafted onto that world. -/
def onto (w : World) : EStateM.Result Abort World α → EStateM.Result Abort World α
  | .ok a w' => .ok a (w.graft w'.core)
  | .error e w' => .error e (w.graft w'.core)

@[simp] theorem onto_ok (w : World) (a : α) (w' : World) : onto w (.ok a w') = .ok a (w.graft w'.core) := rfl

@[simp] theorem onto_error (w : World) (e : Abort) (w' : World) :
    onto w (.error e w' : EStateM.Result Abort World α) = .error e (w.graft w'.core) := rfl

/-- Carrying onto a world with another core is carrying onto the world. -/
@[simp] theorem onto_graft (w : World) (c : World.Core) (res : EStateM.Result Abort World α) :
    onto (w.graft c) res = onto w res := by
  cases res <;> rfl

/-- A computation confined to the core of worlds running a program: started from two such worlds
with the same core, it ends in the first as it ends in the second, carried onto the first. -/
def Confined (prog : Program) (x : Run α) : Prop :=
  ∀ w₁ w₂ : World, w₁.program = prog → w₂.program = prog → w₁.core = w₂.core → x.run w₁ = onto w₁ (x.run w₂)

/-- A computation is confined when its runs from any two worlds with one core grafted on agree;
this is how the small steps, which read no program, are shown confined. -/
theorem confined_of_graft {x : Run α}
    (h : ∀ (w₁ w₂ : World) (c : World.Core), x.run (w₁.graft c) = onto w₁ (x.run (w₂.graft c))) :
    Confined prog x := by
  intro w₁ w₂ _ _ same
  have := h w₁ w₂ w₁.core
  rwa [World.graft_core, same, World.graft_core] at this

namespace Confined

/-- Run from a single world, a confined computation keeps everything but the core. -/
theorem self {x : Run α} (h : Confined prog x) {w : World} (hw : w.program = prog) : x.run w = onto w (x.run w) :=
  h w w hw hw rfl

/-- A confined computation that finished keeps the program. -/
theorem program_of_ok {x : Run α} (h : Confined prog x) {w w' : World} {a : α} (hw : w.program = prog)
    (run : x.run w = .ok a w') : w'.program = prog := by
  have kept := h.self hw
  rw [run, onto_ok, EStateM.Result.ok.injEq] at kept
  rw [kept.2, World.program_graft, hw]

theorem pure (a : α) : Confined prog (pure a : Run α) := by
  intro w₁ w₂ _ _ same
  show EStateM.Result.ok a w₁ = .ok a (w₁.graft w₂.core)
  rw [World.graft_of_core same]

theorem throw (e : Abort) : Confined prog (throw e : Run α) := by
  intro w₁ w₂ _ _ same
  show EStateM.Result.error e w₁ = .error e (w₁.graft w₂.core)
  rw [World.graft_of_core same]

/-- Sequencing keeps confinement: the second step starts from worlds that again share a core and
the program, which the first step kept. -/
theorem bind {x : Run α} {f : α → Run β} (hx : Confined prog x) (hf : ∀ a, Confined prog (f a)) :
    Confined prog (x >>= f) := by
  intro w₁ w₂ p₁ p₂ same
  rw [bind_run, bind_run, hx w₁ w₂ p₁ p₂ same]
  cases first : x.run w₂ with
  | ok a w₂' =>
    have kept : w₂'.program = prog := hx.program_of_ok p₂ first
    show (f a).run (w₁.graft w₂'.core) = onto w₁ ((f a).run w₂')
    rw [hf a _ w₂' (by rw [World.program_graft, p₁]) kept (World.core_graft _ _), onto_graft]
  | error e w₂' => rfl

/-- Reading the world and going on with what depends only on the program is confined when what
it goes on with is. -/
theorem read {f : World → Run β} {y : Run β} (reads : ∀ w : World, w.program = prog → f w = y)
    (hy : Confined prog y) : Confined prog (get >>= f) := by
  intro w₁ w₂ p₁ p₂ same
  rw [bind_run, bind_run, get_run, get_run]
  show (f w₁).run w₁ = onto w₁ ((f w₂).run w₂)
  rw [reads w₁ p₁, reads w₂ p₂]
  exact hy w₁ w₂ p₁ p₂ same

/-- A confined computation that extends another ends, from a world sharing the core with a world
where the other did not run out, as the other ends there. -/
theorem of_extends {x y : Run α} (hy : Confined prog y) (ext : Extends x y) {w₁ w₂ : World}
    (p₁ : w₁.program = prog) (p₂ : w₂.program = prog) (same : w₁.core = w₂.core)
    (finished : ∀ w', x.run w₂ ≠ .error .exhausted w') : y.run w₁ = onto w₁ (x.run w₂) := by
  rw [hy w₁ w₂ p₁ p₂ same]
  rcases ext w₂ with ⟨w', stop⟩ | extended
  · exact absurd stop (finished w')
  · rw [extended]

end Confined

/-! ## The small steps on the core -/

theorem spend_confined : Confined prog spend := by
  refine confined_of_graft fun w₁ w₂ c => ?_
  -- Both worlds have the core's budget, so both spend a step or both stop.
  obtain ⟨states, instances, trace, budget⟩ := c
  cases budget <;> rfl

theorem note_confined (n : Note) : Confined prog (note n) := confined_of_graft fun _ _ _ => rfl

theorem mark_confined (text : String) : Confined prog (mark text) := note_confined _

theorem inst_confined (i : Nat) : Confined prog (inst i) := confined_of_graft fun _ _ _ => rfl

theorem modifyInst_confined (i : Nat) (f : Instance → Instance) : Confined prog (modifyInst i f) :=
  confined_of_graft fun _ _ _ => rfl

theorem newInstance_confined (script : Nat) (name : String) (caps : Nat) (props : Props) :
    Confined prog (newInstance script name caps props) :=
  confined_of_graft fun _ _ _ => rfl

theorem stateRecord_confined (i : Nat) : Confined prog (stateRecord i) := confined_of_graft fun _ _ _ => rfl

theorem setState_confined (i : Nat) (key : String) (v : Value) : Confined prog (setState i key v) :=
  confined_of_graft fun _ _ _ => rfl

theorem actionContext_confined (i : Nat) : Confined prog (actionContext i) := by
  refine (inst_confined i).bind fun ins => ?_
  -- The context reads the instance's state record, when it has one.
  dsimp only
  split
  · exact (stateRecord_confined _).bind fun _ => (Confined.pure _).bind fun _ => .pure _
  · exact (Confined.pure _).bind fun _ => .pure _

end Run

/-! ## Components without capabilities -/

/-- A setup step that touches only the state records and the trace: setting or incrementing a
state field, a snapshot of the state, or a failure. -/
def Action.Quiet : Action → Prop
  | .set _ _ => True
  | .inc _ => True
  | .snapshot => True
  | .fail _ => True
  | _ => False

/-- A script whose setup uses no capability: it seeds no state record and takes only quiet steps. -/
def Script.Quiet (s : Script) : Prop := s.seed = .none ∧ ∀ a ∈ s.setup, a.Quiet

/-- A component whose setup uses no capability, with a program: the bundled greeting, or a quiet
script. -/
def Component.Quiet (prog : Program) : Component → Prop
  | .demo .godspeedYou => True
  | .script s => (prog.scripts.getD s default).Quiet
  | _ => False

namespace Run

variable {prog : Program}

/-- A quiet step of an instance is confined. -/
theorem action_confined (n i : Nat) {act : Action} (quiet : act.Quiet) : Confined prog (action n i act) := by
  rw [action.eq_def]
  split
  · exact .throw _
  refine (inst_confined i).bind fun ins => (actionContext_confined i).bind fun ctx => ?_
  cases act <;> simp only [Action.Quiet] at quiet <;> dsimp only
  -- Each step reads the instance's state record, when it has one, and sets it or traces.
  case set key t =>
    split
    · exact (setState_confined _ _ _).bind fun _ => .pure _
    · exact (mark_confined _).bind fun _ => .pure _
  case inc key =>
    split
    · exact (stateRecord_confined _).bind fun _ => (setState_confined _ _ _).bind fun _ => .pure _
    · exact (mark_confined _).bind fun _ => .pure _
  case snapshot =>
    split
    · exact (stateRecord_confined _).bind fun _ => (note_confined _).bind fun _ => .pure _
    · exact (note_confined _).bind fun _ => .pure _
  case fail m => exact .pure _

/-- Quiet steps, with or without an instance, are confined: the run stops at the first failure,
tracing each step. -/
theorem actions_confined (n : Nat) (owner : Option Nat) {acts : List Action} (quiet : ∀ a ∈ acts, a.Quiet) :
    Confined prog (actions n owner acts) := by
  induction n generalizing acts with
  | zero =>
    rw [actions.eq_def]
    exact .throw _
  | succ n ih =>
    rw [actions.eq_def]
    cases acts with
    | nil => exact .pure _
    | cons act rest =>
      have rest_quiet : ∀ a ∈ rest, a.Quiet := fun a ha => quiet a (List.mem_cons_of_mem act ha)
      refine spend_confined.bind fun _ => ?_
      dsimp only
      -- Without an instance a failure is returned and any other step only traced; with one the step
      -- runs. The rest follows unless the step failed.
      split
      · split
        · exact (Confined.pure _).bind fun result => by
            cases result with
            | none => exact ih rest_quiet
            | some m => exact .pure _
        · exact (mark_confined _).bind fun _ => (Confined.pure _).bind fun result => by
            cases result with
            | none => exact ih rest_quiet
            | some m => exact .pure _
      · exact (action_confined n _ (quiet act List.mem_cons_self)).bind fun result => by
          cases result with
          | none => exact ih rest_quiet
          | some m => exact .pure _

/-- The setup of a quiet component is confined. -/
theorem instantiate_confined (n : Nat) {c : Component} (quiet : c.Quiet prog) (name : String) (props : Props)
    (caps : Nat) : Confined prog (instantiate n c name props caps) := by
  rw [instantiate.eq_def]
  split
  · exact .throw _
  cases c with
  | demo d =>
    cases d <;> simp only [Component.Quiet] at quiet
    exact .pure _
  | script s =>
    simp only [Component.Quiet] at quiet
    obtain ⟨unseeded, steps⟩ := quiet
    -- The script is read from the program; its setup seeds no state and takes quiet steps.
    refine spend_confined.bind fun _ => Confined.read (fun w hw => by rw [hw]) ?_
    refine (mark_confined _).bind fun _ => (newInstance_confined _ _ _ _).bind fun i => ?_
    rw [unseeded]
    dsimp only
    refine (actions_confined _ _ steps).bind fun _ => ?_
    split
    · exact .throw _
    · exact .pure _

/-- Every render call is confined: the bundled render functions read at most a state record, and a
script's reads its instance and the program and counts the call on the instance. -/
theorem callRender_confined (n : Nat) (fn : RenderFn) (props : Props) (children : List Value) :
    Confined prog (callRender n fn props children) := by
  rw [callRender.eq_def]
  split
  · exact .throw _
  cases fn
  case counter label st caps => exact (stateRecord_confined st).bind fun _ => .pure _
  case greeter st => exact (stateRecord_confined st).bind fun _ => .pure _
  case script i =>
    refine spend_confined.bind fun _ => (inst_confined i).bind fun ins => ?_
    refine Confined.read (fun w hw => by rw [hw]) ?_
    refine (mark_confined _).bind fun _ => (modifyInst_confined _ _).bind fun _ => ?_
    -- The output is filled with the instance's state record, when it has one.
    dsimp only
    split
    · exact (stateRecord_confined _).bind fun _ => (Confined.pure _).bind fun _ => .pure _
    · exact (Confined.pure _).bind fun _ => .pure _
  all_goals exact .pure _

end Run

end ViewEngine
