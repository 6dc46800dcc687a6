import ViewEngine.Proofs.Engine.Sweep

/-! The layout of a world: the program, the document, the renderers and the instances, the parts
that mount points and the document are judged by. Engine steps that touch nothing else leave the
layout as it is; those that do, change it in a few shapes, each with its equation here. -/

namespace ViewEngine

open Host

/-- The parts of a world that mount points and the document are judged by. -/
structure Layout where
  program : Program
  doc : Document Listener
  renderers : Array Renderer
  instances : Array Instance

/-- The layout of a world. -/
def World.layout (w : World) : Layout := ⟨w.program, w.doc, w.renderers, w.instances⟩

namespace Layout

/-- The mount points of a renderer. -/
def points (v : Layout) (r : Nat) : List MountPoint := (v.renderers.getD r Renderer.default).points

/-- The last mount point number a renderer handed out. -/
def next (v : Layout) (r : Nat) : Nat := (v.renderers.getD r Renderer.default).next

/-- The script behind an instance. -/
def scriptOf (v : Layout) (i : Nat) : Script :=
  v.program.scripts.getD (v.instances.getD i default).script default

/-- What no engine step changes about a layout: the program, the number of renderers, and the
script of each instance, while instances only grow. -/
structure Frame (v v' : Layout) : Prop where
  program : v'.program = v.program
  renderers : v'.renderers.size = v.renderers.size
  instances : v.instances.size ≤ v'.instances.size
  scripts : ∀ i < v.instances.size,
    (v'.instances.getD i default).script = (v.instances.getD i default).script

theorem Frame.refl (v : Layout) : Frame v v := ⟨rfl, rfl, Nat.le_refl _, fun _ _ => rfl⟩

theorem Frame.trans {u v w : Layout} (h₁ : Frame u v) (h₂ : Frame v w) : Frame u w where
  program := h₂.program.trans h₁.program
  renderers := h₂.renderers.trans h₁.renderers
  instances := Nat.le_trans h₁.instances h₂.instances
  scripts i hi := (h₂.scripts i (Nat.lt_of_lt_of_le hi h₁.instances)).trans (h₁.scripts i hi)

/-- An instance that was there keeps its script. -/
theorem Frame.scriptOf {v v' : Layout} (h : Frame v v') {i : Nat} (hi : i < v.instances.size) :
    v'.scriptOf i = v.scriptOf i := by
  simp only [Layout.scriptOf, h.program, h.scripts i hi]

end Layout

theorem Array.getD_modify {α : Type} (xs : Array α) (i j : Nat) (f : α → α) (d : α) :
    (xs.modify i f).getD j d = if i = j ∧ j < xs.size then f (xs.getD j d) else xs.getD j d := by
  simp only [Array.getD_eq_getD_getElem?, Array.getElem?_modify]
  by_cases same : i = j
  · subst same
    by_cases inside : i < xs.size
    · simp [inside]
    · simp [inside]
  · simp [same]

theorem Array.getD_push {α : Type} (xs : Array α) (x : α) (j : Nat) (d : α) :
    (xs.push x).getD j d = if j = xs.size then x else xs.getD j d := by
  simp only [Array.getD_eq_getD_getElem?, Array.getElem?_push]
  split <;> rfl

end ViewEngine
