import Mathlib
import ViewEngine.Proofs.Host.Children
import ViewEngine.Proofs.Engine.Layout

/-! Mount points against the document: the invariant under which every element a renderer made
is owned by a live mount point exactly when it hangs under a mount container, and the release of
a cleared element's mount points keeps it. -/

namespace ViewEngine

open Host

/-- Where a render puts the node it renders: into an element of its own, or into its container. -/
inductive Yield where
  | element
  | container
  deriving DecidableEq

/-- Where a node with this tag goes: the fragment tag and components into the container, any
other name into an element. Other tags are refused. -/
def Value.yield? : Value → Option Yield
  | .str s => some (if s == fragmentTag then .container else .element)
  | .component _ _ => some .container
  | _ => none

/-- The yield a template fixes by the tag it writes out, when it writes one. -/
def Template.yield? : Template → Option Yield
  | .list _ (.value v :: _) => v.yield?
  | .value (.node (v :: _)) => v.yield?
  | .value (.list (v :: _)) => v.yield?
  | _ => none

/-- Every template of the script yields alike. -/
def Script.Yields (s : Script) (y : Yield) : Prop := ∀ t ∈ s.renders, t.yield? = some y

/-- An action that cannot reach another mount point from inside a render phase: it does not emit,
exercise the emit capability, or call its re-render trigger. -/
def Action.Inert : Action → Prop
  | .emit _ _ => False
  | .trigger => False
  | .cap name => name ≠ "emit"
  | _ => True

/-- A program whose scripts each render with one yield and set up with inert actions only. -/
def Program.Steady (prog : Program) : Prop :=
  ∀ s ∈ prog.scripts, (∃ y, s.Yields y) ∧ ∀ a ∈ s.setup, a.Inert

/-- An element hangs under one of the mount containers. -/
def Layout.Attached (v : Layout) (roots : List Nat) (e : Nat) : Prop := ∃ c ∈ roots, v.doc.Under c e

/-- Every render of the function yields alike. -/
def RenderFn.Yields (v : Layout) : RenderFn → Yield → Prop
  | .host tag, y => (Value.str tag).yield? = some y
  | .stateful, y => y = .container
  | .script i, y => (v.scriptOf i).Yields y
  | _, y => y = .element

/-- Where the mount points a render phase creates go: into its element, or into its container
while it has none. -/
def MountPoint.region (p : MountPoint) : Nat := p.element.getD p.container

section Sound

variable (r base : Nat) (roots : List Nat)

/-- The invariant of a renderer's mount points against the document, for the elements from `base`
on (those the renderer made) and the mount containers `roots`. -/
structure Sound (w : Layout) : Prop where
  forest : w.doc.Forest base
  base_le : base ≤ w.doc.elements.size
  roots_lt : ∀ c ∈ roots, c < base
  present : r < w.renderers.size
  ids : ((w.points r).map (·.id)).Nodup
  fresh : ∀ p ∈ w.points r, p.id ≤ w.next r
  kids_after : ∀ p ∈ w.points r, ∀ k ∈ p.kids, p.id < k ∧ k ≤ w.next r
  others : ∀ r', r' ≠ r → w.points r' = []
  elements : ∀ p ∈ w.points r, ∀ e, p.element = some e → base ≤ e ∧ e ∈ w.doc.childElements p.container
  owner_unique : ∀ p ∈ w.points r, ∀ q ∈ w.points r, ∀ e, p.element = some e → q.element = some e → p = q
  attached : ∀ e, base ≤ e → ((∃ p ∈ w.points r, p.element = some e) ↔ w.Attached roots e)
  placed : ∀ q ∈ w.points r, q.container ∈ roots ∨ ∃ o ∈ w.points r, q.id ∈ o.kids ∧ q.container = o.region
  kids_placed : ∀ o ∈ w.points r, ∀ q ∈ w.points r, q.id ∈ o.kids → q.container = o.region
  shaped : ∀ p ∈ w.points r, p.element.isSome → RenderFn.Yields w p.render .element
  kidless : ∀ p ∈ w.points r, p.element = none → (∃ q ∈ w.points r, q.id ∈ p.kids) →
    RenderFn.Yields w p.render .container
  instances : ∀ p ∈ w.points r, ∀ i, p.render = .script i → i < w.instances.size

/-- Where a mount may put a new mount point: into a mount container when nothing owns it, or into
the region of its live owner, which yields into its container while it has no element. -/
def Target (v : Layout) (c : Nat) : Option Nat → Prop
  | none => c ∈ roots
  | some k => ∃ P ∈ v.points r, P.id = k ∧ P.region = c ∧
      (P.element = none → RenderFn.Yields v P.render .container)

end Sound

/-- A mount point after its owner takes on a new kid: the owner lists it last. -/
def MountPoint.adopt (owner : Option Nat) (kid : Nat) (p : MountPoint) : MountPoint :=
  if owner = some p.id then { p with kids := p.kids ++ [kid] } else p

namespace MountPoint

variable (owner : Option Nat) (kid : Nat) (p : MountPoint)

@[simp] theorem adopt_id : (p.adopt owner kid).id = p.id := by unfold adopt; split <;> rfl
@[simp] theorem adopt_container : (p.adopt owner kid).container = p.container := by
  unfold adopt; split <;> rfl
@[simp] theorem adopt_element : (p.adopt owner kid).element = p.element := by unfold adopt; split <;> rfl
@[simp] theorem adopt_render : (p.adopt owner kid).render = p.render := by unfold adopt; split <;> rfl
@[simp] theorem adopt_region : (p.adopt owner kid).region = p.region := by
  simp only [region, adopt_element, adopt_container]

theorem adopt_kids : (p.adopt owner kid).kids = if owner = some p.id then p.kids ++ [kid] else p.kids := by
  unfold adopt; split <;> rfl

theorem kid_of_mem_adopt {k : Nat} (h : k ∈ (p.adopt owner kid).kids) : k ∈ p.kids ∨ (owner = some p.id ∧ k = kid) := by
  rw [adopt_kids] at h
  split at h
  · rename_i same
    rcases List.mem_append.1 h with old | new
    · exact .inl old
    · exact .inr ⟨same, List.mem_singleton.1 new⟩
  · exact .inl h

end MountPoint

/-- A render function of an instance that was there yields alike in a later layout. -/
theorem RenderFn.yields_frame {v v' : Layout} (h : v.Frame v') {fn : RenderFn}
    (inst : ∀ i, fn = .script i → i < v.instances.size) (y : Yield) :
    RenderFn.Yields v' fn y ↔ RenderFn.Yields v fn y := by
  cases fn with
  | script i => simp only [RenderFn.Yields, h.scriptOf (inst i rfl)]
  | _ => rfl

/-- What the invariant reads of a mount point: its number, container, element, render function
and kids. -/
def MountPoint.shape (p : MountPoint) : Nat × Nat × Option Nat × RenderFn × List Nat :=
  (p.id, p.container, p.element, p.render, p.kids)

theorem MountPoint.shape_eq_shape {p q : MountPoint} :
    p.shape = q.shape ↔
      p.id = q.id ∧ p.container = q.container ∧ p.element = q.element ∧ p.render = q.render ∧
        p.kids = q.kids := by
  simp only [MountPoint.shape, Prod.mk.injEq]

/-- A change the invariant cannot see: the frame holds, the element tree stays, every renderer's
mount points keep their shapes in order, and the mount point numbers handed out only grow. -/
structure Layout.Retouch (v v' : Layout) : Prop where
  frame : v.Frame v'
  tree : v.doc.SameTree v'.doc
  shapes : ∀ r, (v'.points r).map MountPoint.shape = (v.points r).map MountPoint.shape
  next : ∀ r, v.next r ≤ v'.next r

namespace Layout.Retouch

variable {u v w : Layout}

@[refl] theorem refl (v : Layout) : v.Retouch v :=
  ⟨Frame.refl v, .refl _, fun _ => rfl, fun _ => Nat.le_refl _⟩

theorem trans (h₁ : u.Retouch v) (h₂ : v.Retouch w) : u.Retouch w :=
  ⟨h₁.frame.trans h₂.frame, h₁.tree.trans h₂.tree, fun r => (h₂.shapes r).trans (h₁.shapes r),
    fun r => Nat.le_trans (h₁.next r) (h₂.next r)⟩

/-- A mount point after the change was there before with the same shape. -/
theorem lift (h : v.Retouch w) {r : Nat} {q : MountPoint} (hq : q ∈ w.points r) :
    ∃ p ∈ v.points r, q.shape = p.shape := by
  have : q.shape ∈ (v.points r).map MountPoint.shape := by
    rw [← h.shapes r]
    exact List.mem_map_of_mem hq
  obtain ⟨p, hp, same⟩ := List.mem_map.1 this
  exact ⟨p, hp, same.symm⟩

/-- A mount point before the change is still there with the same shape. -/
theorem lower (h : v.Retouch w) {r : Nat} {p : MountPoint} (hp : p ∈ v.points r) :
    ∃ q ∈ w.points r, q.shape = p.shape := by
  have : p.shape ∈ (w.points r).map MountPoint.shape := by
    rw [h.shapes r]
    exact List.mem_map_of_mem hp
  exact List.mem_map.1 this

/-- The numbers of the mount points stay, in order. -/
theorem ids (h : v.Retouch w) (r : Nat) : (w.points r).map (·.id) = (v.points r).map (·.id) := by
  have := congrArg (List.map Prod.fst) (h.shapes r)
  simpa only [List.map_map, Function.comp_def, MountPoint.shape] using this

end Layout.Retouch

namespace Sound

variable {r base : Nat} {roots : List Nat} {w : Layout}

/-- The container of a live mount point is an element that hangs under a mount container. -/
theorem container_attached (s : Sound r base roots w) {q : MountPoint} (hq : q ∈ w.points r) :
    w.Attached roots q.container ∧ q.container < w.doc.elements.size := by
  -- Owners come before their kids, so induction on the id climbs to a mount container.
  induction h : q.id using Nat.strong_induction_on generalizing q with
  | _ n ih =>
    rcases s.placed q hq with root | ⟨o, ho, kid, region⟩
    · have : q.container < base := s.roots_lt _ root
      exact ⟨⟨_, root, .refl _⟩, by have := s.base_le; omega⟩
    · have before : o.id < n := h ▸ (s.kids_after o ho q.id kid).1
      rw [region]
      unfold MountPoint.region
      cases own : o.element with
      | none => exact ih o.id before ho rfl
      | some e =>
        obtain ⟨he, mem⟩ := s.elements o ho e own
        exact ⟨(s.attached e he).1 ⟨o, ho, own⟩, s.forest.closed _ e mem⟩

/-- The mount points reached from a kids list come after their owner. -/
theorem reached_after (s : Sound r base roots w) {p : MountPoint} (hp : p ∈ w.points r) {i : Nat}
    (h : Reached (w.points r) p.kids i) : p.id < i := by
  induction h with
  | root mem => exact (s.kids_after p hp _ mem).1
  | kid ho _ kid ih => exact Nat.lt_trans ih (s.kids_after _ ho _ kid).1

/-- The mount points reached from the kids of a mount point with an element have their container
under that element. -/
theorem reached_under (s : Sound r base roots w) {p : MountPoint} (hp : p ∈ w.points r) {el : Nat}
    (own : p.element = some el) {i : Nat} (h : Reached (w.points r) p.kids i) :
    ∀ q ∈ w.points r, q.id = i → w.doc.Under el q.container := by
  induction h with
  | root mem =>
    intro q hq same
    rw [s.kids_placed p hp q hq (same ▸ mem), MountPoint.region, own]
    exact .refl _
  | @kid i o ho _ kid ih =>
    intro q hq same
    have up := ih o ho rfl
    rw [s.kids_placed o ho q hq (same ▸ kid), MountPoint.region]
    cases oe : o.element with
    | none => exact up
    | some e => exact .child up (s.elements o ho e oe).2

/-- Conversely, every other mount point whose container is under that element is reached from its
kids. -/
theorem reached_of_under (s : Sound r base roots w) {p : MountPoint} (hp : p ∈ w.points r) {el : Nat}
    (own : p.element = some el) {q : MountPoint} (hq : q ∈ w.points r) (ne : q.id ≠ p.id)
    (below : w.doc.Under el q.container) : Reached (w.points r) p.kids q.id := by
  have hel : base ≤ el := (s.elements p hp el own).1
  -- Induction on the id: the owner of `q` comes first and sits under the same element.
  induction h : q.id using Nat.strong_induction_on generalizing q with
  | _ n ih =>
    subst h
    rcases s.placed q hq with root | ⟨o, ho, kid, region⟩
    · have := below.le_of_forest s.forest hel
      have := s.roots_lt _ root
      omega
    · by_cases top : o = p
      · subst top
        exact .root kid
      · have before : o.id < q.id := (s.kids_after o ho q.id kid).1
        have owner_ne : o.id ≠ p.id := fun same =>
          top (List.inj_on_of_nodup_map s.ids ho hp same)
        refine .kid ho (ih o.id before ho owner_ne ?_ rfl) kid
        rw [region, MountPoint.region] at below
        cases oe : o.element with
        | none => simpa [oe] using below
        | some e =>
          rw [oe] at below
          have he : base ≤ e := (s.elements o ho e oe).1
          have mem : e ∈ w.doc.childElements o.container := (s.elements o ho e oe).2
          by_cases same : el = e
          · subst same
            exact absurd (s.owner_unique o ho p hp el oe own) top
          · obtain ⟨y, up, link⟩ := below.last same
            have : y = o.container := s.forest.parent_unique e he y o.container link mem
            exact this ▸ up

/-- A mount point with an element is reached from the kids of the mount point owning `el` exactly
when its element hangs under one of the children of `el`. -/
theorem reached_iff_under (s : Sound r base roots w) {p : MountPoint} (hp : p ∈ w.points r)
    {el : Nat} (own : p.element = some el) {q : MountPoint} (hq : q ∈ w.points r) {e : Nat}
    (qe : q.element = some e) :
    Reached (w.points r) p.kids q.id ↔ ∃ k ∈ w.doc.childElements el, w.doc.Under k e := by
  obtain ⟨he, mem⟩ := s.elements q hq e qe
  constructor
  · intro h
    exact (s.reached_under hp own h q hq rfl).strict mem
  · rintro ⟨k, hk, down⟩
    have hel : base ≤ el := (s.elements p hp el own).1
    have hk' : base ≤ k := s.forest.above el hel k hk
    -- The element lies strictly below `el`, so `q` is not `p` and its container is under `el`.
    have after : el < e := Nat.lt_of_lt_of_le (s.forest.ordered el k hk hk') (down.le s.forest hk')
    have ne : q.id ≠ p.id := by
      intro same
      have : q = p := List.inj_on_of_nodup_map s.ids hq hp same
      subst this
      rw [qe] at own
      cases own
      exact Nat.lt_irrefl _ after
    refine s.reached_of_under hp own hq ne ?_
    by_cases top : k = e
    · subst top
      rw [s.forest.parent_unique k hk' q.container el mem hk]
      exact .refl _
    · obtain ⟨y, up, link⟩ := down.last top
      have : y = q.container := s.forest.parent_unique e he y q.container link mem
      exact this ▸ (Document.Under.child (.refl el) hk).trans up

/-- A change the invariant cannot see keeps it. -/
theorem of_retouch {v v' : Layout} (s : Sound r base roots v) (h : v.Retouch v') :
    Sound r base roots v' := by
  have yields : ∀ p ∈ v.points r, ∀ y, RenderFn.Yields v' p.render y ↔ RenderFn.Yields v p.render y :=
    fun p hp y => RenderFn.yields_frame h.frame (s.instances p hp) y
  have lift : ∀ {q}, q ∈ v'.points r → ∃ p ∈ v.points r, q.id = p.id ∧ q.container = p.container ∧
      q.element = p.element ∧ q.render = p.render ∧ q.kids = p.kids := by
    intro q hq
    obtain ⟨p, hp, same⟩ := h.lift hq
    exact ⟨p, hp, MountPoint.shape_eq_shape.1 same⟩
  have lower : ∀ {p}, p ∈ v.points r → ∃ q ∈ v'.points r, q.id = p.id ∧ q.container = p.container ∧
      q.element = p.element ∧ q.render = p.render ∧ q.kids = p.kids := by
    intro p hp
    obtain ⟨q, hq, same⟩ := h.lower hp
    exact ⟨q, hq, MountPoint.shape_eq_shape.1 same⟩
  have ids : ((v'.points r).map (·.id)).Nodup := by
    rw [h.ids r]
    exact s.ids
  have owned : ∀ e, (∃ q ∈ v'.points r, q.element = some e) ↔ ∃ p ∈ v.points r, p.element = some e := by
    intro e
    constructor
    · rintro ⟨q, hq, own⟩
      obtain ⟨p, hp, -, -, el, -⟩ := lift hq
      exact ⟨p, hp, el ▸ own⟩
    · rintro ⟨p, hp, own⟩
      obtain ⟨q, hq, -, -, el, -⟩ := lower hp
      exact ⟨q, hq, el ▸ own⟩
  have attached : ∀ e, v'.Attached roots e ↔ v.Attached roots e := by
    intro e
    simp only [Layout.Attached, Document.under_congr h.tree.children]
  constructor
  · exact s.forest.of_sameTree h.tree
  · rw [h.tree.size]
    exact s.base_le
  · exact s.roots_lt
  · rw [h.frame.renderers]
    exact s.present
  · exact ids
  · intro q hq
    obtain ⟨p, hp, id, -⟩ := lift hq
    rw [id]
    exact Nat.le_trans (s.fresh p hp) (h.next r)
  · intro q hq k hk
    obtain ⟨p, hp, id, -, -, -, kids⟩ := lift hq
    rw [kids] at hk
    rw [id]
    exact ⟨(s.kids_after p hp k hk).1, Nat.le_trans (s.kids_after p hp k hk).2 (h.next r)⟩
  · intro r' ne
    have := h.shapes r'
    rwa [s.others r' ne, List.map_nil, List.map_eq_nil_iff] at this
  · intro q hq e own
    obtain ⟨p, hp, -, container, el, -⟩ := lift hq
    rw [container, h.tree.children]
    exact s.elements p hp e (el ▸ own)
  · intro p hp q hq e pe qe
    obtain ⟨p₀, hp₀, pid, -, pel, -⟩ := lift hp
    obtain ⟨q₀, hq₀, qid, -, qel, -⟩ := lift hq
    have same : p₀ = q₀ := s.owner_unique p₀ hp₀ q₀ hq₀ e (pel ▸ pe) (qel ▸ qe)
    exact List.inj_on_of_nodup_map ids hp hq (by rw [pid, qid, same])
  · intro e he
    rw [owned, attached]
    exact s.attached e he
  · intro q hq
    obtain ⟨p, hp, id, container, -⟩ := lift hq
    rw [id, container]
    rcases s.placed p hp with root | ⟨o, ho, kid, region⟩
    · exact .inl root
    · obtain ⟨o', ho', -, ocontainer, oel, -, okids⟩ := lower ho
      refine .inr ⟨o', ho', okids ▸ kid, ?_⟩
      rw [region, MountPoint.region, MountPoint.region, ocontainer, oel]
  · intro o ho q hq kid
    obtain ⟨o₀, ho₀, -, ocontainer, oel, -, okids⟩ := lift ho
    obtain ⟨q₀, hq₀, qid, qcontainer, -⟩ := lift hq
    rw [qcontainer, MountPoint.region, ocontainer, oel]
    exact s.kids_placed o₀ ho₀ q₀ hq₀ (qid ▸ okids ▸ kid)
  · intro q hq some
    obtain ⟨p, hp, -, -, el, render, -⟩ := lift hq
    rw [render, yields p hp]
    exact s.shaped p hp (el ▸ some)
  · intro q hq none kid
    obtain ⟨p, hp, -, -, el, render, kids⟩ := lift hq
    rw [render, yields p hp]
    refine s.kidless p hp (el ▸ none) ?_
    obtain ⟨k, hk, mem⟩ := kid
    obtain ⟨k₀, hk₀, kid_id, -⟩ := lift hk
    exact ⟨k₀, hk₀, kid_id ▸ kids ▸ mem⟩
  · intro q hq i fn
    obtain ⟨p, hp, -, -, -, render, -⟩ := lift hq
    exact Nat.lt_of_lt_of_le (s.instances p hp i (render ▸ fn)) h.frame.instances

/-- Giving a mount point with no element and no live kids a fresh element, appended to its
container, keeps the invariant when its render function yields elements. -/
theorem create {v v' : Layout} (s : Sound r base roots v) (h : v.Frame v')
    (others : ∀ r', r' ≠ r → v'.points r' = v.points r') (next : v.next r ≤ v'.next r)
    {p : MountPoint} (hp : p ∈ v.points r) (elt : p.element = none)
    (alone : ∀ q ∈ v.points r, q.id ∉ p.kids) (yields : RenderFn.Yields v p.render .element)
    (tag : String) (doc : v'.doc = (v.doc.create tag).1.appendChild p.container v.doc.elements.size)
    (pts : v'.points r = (v.points r).map
      (fun q => if q.id == p.id then { q with element := some v.doc.elements.size } else q)) :
    Sound r base roots v' := by
  obtain ⟨_, found⟩ := s.container_attached hp
  -- The mount point taking the element is `p`, and every other one is as it was.
  set el := v.doc.elements.size with el_eq
  let f : MountPoint → MountPoint := fun q => if q.id == p.id then { q with element := some el } else q
  have f_p : f p = { p with element := some el } := by simp [f]
  have f_other : ∀ q ∈ v.points r, q ≠ p → f q = q := by
    intro q hq ne
    have : q.id ≠ p.id := fun same => ne (List.inj_on_of_nodup_map s.ids hq hp same)
    simp [f, this]
  have mem : ∀ {x}, x ∈ v'.points r ↔ ∃ y ∈ v.points r, f y = x := by
    intro x
    rw [pts, List.mem_map]
  have f_id : ∀ q, (f q).id = q.id := by intro q; simp only [f]; split <;> rfl
  have f_kids : ∀ q, (f q).kids = q.kids := by intro q; simp only [f]; split <;> rfl
  have f_container : ∀ q, (f q).container = q.container := by intro q; simp only [f]; split <;> rfl
  have f_render : ∀ q, (f q).render = q.render := by intro q; simp only [f]; split <;> rfl
  have f_region : ∀ q ∈ v.points r, q ≠ p → (f q).region = q.region := by
    intro q hq ne
    rw [f_other q hq ne]
  -- Old elements sit before the new one, which nothing owned.
  have old_lt : ∀ q ∈ v.points r, ∀ e, q.element = some e → e < el :=
    fun q hq e own => s.forest.closed _ e (s.elements q hq e own).2
  have yields' : ∀ q ∈ v.points r, ∀ y, RenderFn.Yields v' q.render y ↔ RenderFn.Yields v q.render y :=
    fun q hq y => RenderFn.yields_frame h (s.instances q hq) y
  have links : ∀ x, v'.doc.childElements x =
      if x = p.container then v.doc.childElements x ++ [el] else v.doc.childElements x := by
    intro x
    have present : ((v.doc.create tag).1.get? p.container).isSome := by
      rw [Document.get?_create, if_neg (Nat.ne_of_lt found)]
      simp [Document.get?, el_eq ▸ found]
    rw [doc, Document.childElements_appendChild, Document.childElements_create]
    by_cases here : x = p.container <;> simp [here, present]
  have sub : ∀ x, v.doc.childElements x ⊆ v'.doc.childElements x := by
    intro x e he
    rw [links]
    split
    · exact List.mem_append_left _ he
    · exact he
  have under : ∀ c e, v'.doc.Under c e ↔ v.doc.Under c e ∨ (e = el ∧ v.doc.Under c p.container) := by
    intro c e
    rw [doc]
    exact Document.under_create_appendChild tag found
  constructor
  · rw [doc]
    exact s.forest.create_appendChild tag s.base_le found
  · rw [doc, Document.size_appendChild, Document.size_create]
    exact Nat.le_succ_of_le s.base_le
  · exact s.roots_lt
  · exact h.renderers ▸ s.present
  · rw [pts, List.map_map]
    have : (fun q : MountPoint => q.id) ∘ f = (·.id) := funext f_id
    rw [this]
    exact s.ids
  · intro x hx
    obtain ⟨y, hy, rfl⟩ := mem.1 hx
    rw [f_id]
    exact Nat.le_trans (s.fresh y hy) next
  · intro x hx k hk
    obtain ⟨y, hy, rfl⟩ := mem.1 hx
    rw [f_kids] at hk
    rw [f_id]
    exact ⟨(s.kids_after y hy k hk).1, Nat.le_trans (s.kids_after y hy k hk).2 next⟩
  · exact fun r' ne => (others r' ne).trans (s.others r' ne)
  · intro x hx e own
    obtain ⟨y, hy, rfl⟩ := mem.1 hx
    rw [f_container]
    by_cases same : y = p
    · subst same
      rw [f_p, Option.some.injEq] at own
      subst own
      refine ⟨s.base_le, ?_⟩
      rw [links, if_pos rfl]
      exact List.mem_append_right _ (List.mem_singleton_self _)
    · rw [f_other y hy same] at own
      exact ⟨(s.elements y hy e own).1, sub _ (s.elements y hy e own).2⟩
  · intro x hx x' hx' e own own'
    obtain ⟨y, hy, rfl⟩ := mem.1 hx
    obtain ⟨y', hy', rfl⟩ := mem.1 hx'
    by_cases same : y = p <;> by_cases same' : y' = p
    · rw [same, same']
    · rw [same, f_p] at own
      rw [f_other y' hy' same'] at own'
      cases own
      exact absurd (old_lt y' hy' _ own') (Nat.lt_irrefl _)
    · rw [f_other y hy same] at own
      rw [same', f_p] at own'
      cases own'
      exact absurd (old_lt y hy _ own) (Nat.lt_irrefl _)
    · rw [f_other y hy same] at own
      rw [f_other y' hy' same'] at own'
      rw [s.owner_unique y hy y' hy' e own own']
  · intro e he
    have owned : (∃ x ∈ v'.points r, x.element = some e) ↔ e = el ∨ ∃ q ∈ v.points r, q.element = some e := by
      constructor
      · rintro ⟨x, hx, own⟩
        obtain ⟨y, hy, rfl⟩ := mem.1 hx
        by_cases same : y = p
        · rw [same, f_p] at own
          exact .inl (Option.some.inj own).symm
        · rw [f_other y hy same] at own
          exact .inr ⟨y, hy, own⟩
      · rintro (rfl | ⟨q, hq, own⟩)
        · exact ⟨f p, mem.2 ⟨p, hp, rfl⟩, by simp [f_p]⟩
        · have ne : q ≠ p := by
            rintro rfl
            rw [elt] at own
            cases own
          exact ⟨f q, mem.2 ⟨q, hq, rfl⟩, by rw [f_other q hq ne]; exact own⟩
    rw [owned]
    simp only [Layout.Attached, under]
    by_cases new : e = el
    · subst new
      -- The new element hangs wherever its container does, and the container of a live mount point hangs.
      obtain ⟨c, hc, up⟩ := (s.container_attached hp).1
      exact ⟨fun _ => ⟨c, hc, .inr ⟨rfl, up⟩⟩, fun _ => .inl rfl⟩
    · rw [s.attached e he]
      simp [new, Layout.Attached]
  · intro x hx
    obtain ⟨y, hy, rfl⟩ := mem.1 hx
    rw [f_container, f_id]
    rcases s.placed y hy with root | ⟨o, ho, kid, region⟩
    · exact .inl root
    · have ne : o ≠ p := by
        rintro rfl
        exact alone y hy kid
      exact .inr ⟨f o, mem.2 ⟨o, ho, rfl⟩, (f_kids o).symm ▸ kid, (f_region o ho ne).symm ▸ region⟩
  · intro x hx z hz kid
    obtain ⟨y, hy, rfl⟩ := mem.1 hx
    obtain ⟨y', hy', rfl⟩ := mem.1 hz
    rw [f_kids, f_id] at kid
    have ne : y ≠ p := by
      rintro rfl
      exact alone y' hy' kid
    rw [f_container, f_region y hy ne]
    exact s.kids_placed y hy y' hy' kid
  · intro x hx some_elt
    obtain ⟨y, hy, rfl⟩ := mem.1 hx
    rw [f_render, yields' y hy]
    by_cases same : y = p
    · subst same
      exact yields
    · rw [f_other y hy same] at some_elt
      exact s.shaped y hy some_elt
  · intro x hx no_elt held
    obtain ⟨z, hz, kid⟩ := held
    obtain ⟨y, hy, rfl⟩ := mem.1 hx
    obtain ⟨y', hy', rfl⟩ := mem.1 hz
    rw [f_kids, f_id] at kid
    rw [f_render, yields' y hy]
    by_cases same : y = p
    · rw [same, f_p] at no_elt
      cases no_elt
    · rw [f_other y hy same] at no_elt
      exact s.kidless y hy no_elt ⟨y', hy', kid⟩
  · intro x hx i fn
    obtain ⟨y, hy, rfl⟩ := mem.1 hx
    rw [f_render] at fn
    exact Nat.lt_of_lt_of_le (s.instances y hy i fn) h.instances

/-- Clearing the element of a mount point and releasing the mount points reached from its kids keeps
the invariant: the released ones are exactly those whose elements the clearing cut loose. -/
theorem clear {v v' : Layout} (s : Sound r base roots v) (h : v.Frame v')
    (others : ∀ r', r' ≠ r → v'.points r' = v.points r') (next : v.next r ≤ v'.next r)
    {p : MountPoint} (hp : p ∈ v.points r) {el : Nat} (own : p.element = some el)
    {kept : List MountPoint}
    (kept_mem : ∀ q, q ∈ kept ↔ q ∈ v.points r ∧ ¬ Reached (v.points r) p.kids q.id)
    (kept_sub : kept.Sublist (v.points r)) (doc : v'.doc = v.doc.removeChildren el)
    (pts : v'.points r = kept.map (fun q => if q.id == p.id then { q with kids := [] } else q)) :
    Sound r base roots v' := by
  have hel : base ≤ el := (s.elements p hp el own).1
  let g : MountPoint → MountPoint := fun q => if q.id == p.id then { q with kids := [] } else q
  have g_other : ∀ q ∈ v.points r, q ≠ p → g q = q := by
    intro q hq ne
    have : q.id ≠ p.id := fun same => ne (List.inj_on_of_nodup_map s.ids hq hp same)
    simp [g, this]
  have g_id : ∀ q, (g q).id = q.id := by intro q; simp only [g]; split <;> rfl
  have g_container : ∀ q, (g q).container = q.container := by intro q; simp only [g]; split <;> rfl
  have g_element : ∀ q, (g q).element = q.element := by intro q; simp only [g]; split <;> rfl
  have g_render : ∀ q, (g q).render = q.render := by intro q; simp only [g]; split <;> rfl
  have g_region : ∀ q, (g q).region = q.region := by
    intro q
    simp only [MountPoint.region, g_element, g_container]
  have g_kids : ∀ q ∈ v.points r, q ≠ p → (g q).kids = q.kids := fun q hq ne => by rw [g_other q hq ne]
  have g_p_kids : (g p).kids = [] := by simp [g]
  have mem : ∀ {x}, x ∈ v'.points r ↔ ∃ y ∈ v.points r, ¬ Reached (v.points r) p.kids y.id ∧ g y = x := by
    intro x
    rw [pts, List.mem_map]
    constructor
    · rintro ⟨y, hy, rfl⟩
      exact ⟨y, ((kept_mem y).1 hy).1, ((kept_mem y).1 hy).2, rfl⟩
    · rintro ⟨y, hy, unreached, rfl⟩
      exact ⟨y, (kept_mem y).2 ⟨hy, unreached⟩, rfl⟩
  have links : ∀ x, v'.doc.childElements x = if x = el then [] else v.doc.childElements x := by
    intro x
    rw [doc, Document.childElements_removeChildren]
  -- A kept mount point does not sit in the cleared element: it would have been reached.
  have outside : ∀ y ∈ v.points r, ¬ Reached (v.points r) p.kids y.id → y.container ≠ el := by
    intro y hy unreached same
    by_cases self : y = p
    · subst self
      have := s.forest.ordered _ el (same ▸ (s.elements y hy el own).2) hel
      exact Nat.lt_irrefl _ (same ▸ this)
    · have ne : y.id ≠ p.id := fun same => self (List.inj_on_of_nodup_map s.ids hy hp same)
      exact unreached (s.reached_of_under hp own hy ne (same ▸ .refl _))
  have yields' : ∀ q ∈ v.points r, ∀ y, RenderFn.Yields v' q.render y ↔ RenderFn.Yields v q.render y :=
    fun q hq y => RenderFn.yields_frame h (s.instances q hq) y
  constructor
  · refine s.forest.mono (fun x e he => ?_) (Nat.le_of_eq (by rw [doc, Document.size_removeChildren]))
    rw [links] at he
    split at he
    · exact absurd he List.not_mem_nil
    · exact he
  · rw [doc, Document.size_removeChildren]
    exact s.base_le
  · exact s.roots_lt
  · exact h.renderers ▸ s.present
  · rw [pts, List.map_map]
    have : (fun q : MountPoint => q.id) ∘ g = (·.id) := funext g_id
    rw [this]
    exact (kept_sub.map _).nodup s.ids
  · intro x hx
    obtain ⟨y, hy, -, rfl⟩ := mem.1 hx
    rw [g_id]
    exact Nat.le_trans (s.fresh y hy) next
  · intro x hx k hk
    obtain ⟨y, hy, -, rfl⟩ := mem.1 hx
    rw [g_id]
    by_cases self : y = p
    · subst self
      rw [g_p_kids] at hk
      exact absurd hk List.not_mem_nil
    · rw [g_kids y hy self] at hk
      exact ⟨(s.kids_after y hy k hk).1, Nat.le_trans (s.kids_after y hy k hk).2 next⟩
  · exact fun r' ne => (others r' ne).trans (s.others r' ne)
  · intro x hx e own'
    obtain ⟨y, hy, unreached, rfl⟩ := mem.1 hx
    rw [g_element] at own'
    rw [g_container, links, if_neg (outside y hy unreached)]
    exact s.elements y hy e own'
  · intro x hx x' hx' e own₁ own₂
    obtain ⟨y, hy, -, rfl⟩ := mem.1 hx
    obtain ⟨y', hy', -, rfl⟩ := mem.1 hx'
    rw [g_element] at own₁ own₂
    rw [s.owner_unique y hy y' hy' e own₁ own₂]
  · intro e he
    constructor
    · rintro ⟨x, hx, own'⟩
      obtain ⟨y, hy, unreached, rfl⟩ := mem.1 hx
      rw [g_element] at own'
      obtain ⟨c, hc, up⟩ := (s.attached e he).1 ⟨y, hy, own'⟩
      refine ⟨c, hc, ?_⟩
      rw [doc]
      rcases @Document.under_removeChildren_or _ _ el _ _ up with kept' | cut
      · exact kept'
      · exact absurd ((s.reached_iff_under hp own hy own').2 cut) unreached
    · rintro ⟨c, hc, up⟩
      rw [doc] at up
      obtain ⟨y, hy, own'⟩ := (s.attached e he).2 ⟨c, hc, Document.under_of_under_removeChildren up⟩
      have unreached : ¬ Reached (v.points r) p.kids y.id := fun reached =>
        Document.not_under_removeChildren s.forest hel (s.roots_lt c hc) up
          ((s.reached_iff_under hp own hy own').1 reached)
      exact ⟨g y, mem.2 ⟨y, hy, unreached, rfl⟩, by rw [g_element]; exact own'⟩
  · intro x hx
    obtain ⟨y, hy, unreached, rfl⟩ := mem.1 hx
    rw [g_container, g_id]
    rcases s.placed y hy with root | ⟨o, ho, kid, region⟩
    · exact .inl root
    · -- The owner survives: had it been released, so would its kid.
      have self : o ≠ p := by
        rintro rfl
        exact unreached (.root kid)
      have kept_o : ¬ Reached (v.points r) p.kids o.id := fun reached => unreached (.kid ho reached kid)
      exact .inr ⟨g o, mem.2 ⟨o, ho, kept_o, rfl⟩, by rw [g_kids o ho self]; exact kid,
        by rw [g_region]; exact region⟩
  · intro x hx z hz kid
    obtain ⟨y, hy, -, rfl⟩ := mem.1 hx
    obtain ⟨y', hy', -, rfl⟩ := mem.1 hz
    rw [g_id] at kid
    by_cases self : y = p
    · subst self
      rw [g_p_kids] at kid
      exact absurd kid List.not_mem_nil
    · rw [g_kids y hy self] at kid
      rw [g_container, g_region]
      exact s.kids_placed y hy y' hy' kid
  · intro x hx some_elt
    obtain ⟨y, hy, -, rfl⟩ := mem.1 hx
    rw [g_element] at some_elt
    rw [g_render, yields' y hy]
    exact s.shaped y hy some_elt
  · intro x hx no_elt held
    obtain ⟨z, hz, kid⟩ := held
    obtain ⟨y, hy, -, rfl⟩ := mem.1 hx
    obtain ⟨y', hy', -, rfl⟩ := mem.1 hz
    rw [g_element] at no_elt
    rw [g_id] at kid
    rw [g_render, yields' y hy]
    by_cases self : y = p
    · subst self
      rw [g_p_kids] at kid
      exact absurd kid List.not_mem_nil
    · rw [g_kids y hy self] at kid
      exact s.kidless y hy no_elt ⟨y', hy', kid⟩
  · intro x hx i fn
    obtain ⟨y, hy, -, rfl⟩ := mem.1 hx
    rw [g_render] at fn
    exact Nat.lt_of_lt_of_le (s.instances y hy i fn) h.instances

/-- Making a fresh mount point live, as a kid of its owner or at a mount container, keeps the
invariant. -/
theorem register {v v' : Layout} (s : Sound r base roots v) (h : v.Frame v') (doc : v'.doc = v.doc)
    (others : ∀ r', r' ≠ r → v'.points r' = v.points r') (next : v.next r ≤ v'.next r)
    {q : MountPoint} {o : Option Nat} (after_ids : ∀ p ∈ v.points r, p.id < q.id)
    (after_kids : ∀ p ∈ v.points r, ∀ k ∈ p.kids, k < q.id) (bound : q.id ≤ v.next r)
    (elt : q.element = none) (kids : q.kids = []) (target : Target r roots v q.container o)
    (inst : ∀ i, q.render = .script i → i < v.instances.size)
    (pts : v'.points r = (v.points r ++ [q]).map (MountPoint.adopt o q.id)) :
    Sound r base roots v' := by
  -- The owner is an older mount point, so the new one keeps its (empty) kids list.
  have not_self : o ≠ some q.id := by
    intro same
    subst same
    obtain ⟨P, hP, idP, -⟩ := target
    exact Nat.lt_irrefl _ (idP ▸ after_ids P hP)
  have new_adopt : q.adopt o q.id = q := by simp [MountPoint.adopt, not_self]
  have yields : ∀ p ∈ v.points r ++ [q], ∀ y,
      RenderFn.Yields v' p.render y ↔ RenderFn.Yields v p.render y := by
    intro p hp y
    refine RenderFn.yields_frame h ?_ y
    rcases List.mem_append.1 hp with hp | hp
    · exact s.instances p hp
    · exact List.mem_singleton.1 hp ▸ inst
  -- Every live mount point of the new layout is an old one or the new one, adopted.
  have mem : ∀ {x}, x ∈ v'.points r ↔ ∃ y ∈ v.points r ++ [q], y.adopt o q.id = x := by
    intro x
    rw [pts, List.mem_map]
  have fresh_ne : ∀ p ∈ v.points r, p.id ≠ q.id := fun p hp same => Nat.lt_irrefl _ (same ▸ after_ids p hp)
  have owned : ∀ e, (∃ p ∈ v'.points r, p.element = some e) ↔ ∃ p ∈ v.points r, p.element = some e := by
    intro e
    constructor
    · rintro ⟨x, hx, own⟩
      obtain ⟨y, hy, rfl⟩ := mem.1 hx
      rcases List.mem_append.1 hy with hy | hy
      · exact ⟨y, hy, by simpa using own⟩
      · rw [List.mem_singleton.1 hy] at own
        simp [elt] at own
    · rintro ⟨p, hp, own⟩
      exact ⟨p.adopt o q.id, mem.2 ⟨p, List.mem_append_left _ hp, rfl⟩, by simpa using own⟩
  constructor
  · exact doc ▸ s.forest
  · exact doc ▸ s.base_le
  · exact s.roots_lt
  · exact h.renderers ▸ s.present
  · rw [pts, List.map_map]
    have : (fun p : MountPoint => p.id) ∘ MountPoint.adopt o q.id = (·.id) := by
      funext p
      simp
    rw [this, List.map_append, List.nodup_append]
    refine ⟨s.ids, List.nodup_singleton _, ?_⟩
    intro a ha b hb
    obtain ⟨p, hp, rfl⟩ := List.mem_map.1 ha
    rw [List.map_cons, List.map_nil, List.mem_singleton] at hb
    exact hb ▸ fresh_ne p hp
  · intro x hx
    obtain ⟨y, hy, rfl⟩ := mem.1 hx
    rcases List.mem_append.1 hy with hy | hy
    · simpa using Nat.le_trans (s.fresh y hy) next
    · simpa [List.mem_singleton.1 hy] using Nat.le_trans bound next
  · intro x hx k hk
    obtain ⟨y, hy, rfl⟩ := mem.1 hx
    rcases y.kid_of_mem_adopt o q.id hk with old | ⟨owner, rfl⟩
    · rcases List.mem_append.1 hy with hy | hy
      · simpa using And.intro (s.kids_after y hy k old).1 (Nat.le_trans (s.kids_after y hy k old).2 next)
      · rw [List.mem_singleton.1 hy, kids] at old
        exact absurd old List.not_mem_nil
    · rcases List.mem_append.1 hy with hy | hy
      · simpa using And.intro (after_ids y hy) (Nat.le_trans bound next)
      · rw [List.mem_singleton.1 hy] at owner
        exact absurd owner not_self
  · exact fun r' ne => (others r' ne).trans (s.others r' ne)
  · intro x hx e own
    obtain ⟨y, hy, rfl⟩ := mem.1 hx
    rcases List.mem_append.1 hy with hy | hy
    · simpa [doc] using s.elements y hy e (by simpa using own)
    · rw [List.mem_singleton.1 hy] at own
      simp [elt] at own
  · intro x hx x' hx' e own own'
    obtain ⟨y, hy, rfl⟩ := mem.1 hx
    obtain ⟨y', hy', rfl⟩ := mem.1 hx'
    simp only [MountPoint.adopt_element] at own own'
    have old : ∀ {z}, z ∈ v.points r ++ [q] → z.element = some e → z ∈ v.points r := by
      intro z hz own
      rcases List.mem_append.1 hz with hz | hz
      · exact hz
      · rw [List.mem_singleton.1 hz, elt] at own
        cases own
    rw [s.owner_unique y (old hy own) y' (old hy' own') e own own']
  · intro e he
    rw [owned e, s.attached e he]
    simp only [Layout.Attached, doc]
  · intro x hx
    obtain ⟨y, hy, rfl⟩ := mem.1 hx
    rcases List.mem_append.1 hy with hy | hy
    · rcases s.placed y hy with root | ⟨P, hP, kid, region⟩
      · exact .inl (by simpa using root)
      · refine .inr ⟨P.adopt o q.id, mem.2 ⟨P, List.mem_append_left _ hP, rfl⟩, ?_, by simpa using region⟩
        rw [MountPoint.adopt_id, MountPoint.adopt_kids]
        split
        · exact List.mem_append_left _ kid
        · exact kid
    · rw [List.mem_singleton.1 hy, new_adopt]
      cases o with
      | none => exact .inl target
      | some k =>
        obtain ⟨P, hP, idP, region, -⟩ := target
        refine .inr ⟨P.adopt (some k) q.id, mem.2 ⟨P, List.mem_append_left _ hP, rfl⟩, ?_, by simpa using region.symm⟩
        simp [MountPoint.adopt_kids, idP]
  · intro x hx z hz kid
    obtain ⟨y, hy, rfl⟩ := mem.1 hx
    obtain ⟨y', hy', rfl⟩ := mem.1 hz
    simp only [MountPoint.adopt_id, MountPoint.adopt_container, MountPoint.adopt_region] at kid ⊢
    rcases y.kid_of_mem_adopt o q.id kid with old | ⟨owner, same⟩
    · rcases List.mem_append.1 hy with hy | hy
      · rcases List.mem_append.1 hy' with hy' | hy'
        · exact s.kids_placed y hy y' hy' old
        · rw [List.mem_singleton.1 hy'] at old
          exact absurd (after_kids y hy _ old) (Nat.lt_irrefl _)
      · rw [List.mem_singleton.1 hy, kids] at old
        exact absurd old List.not_mem_nil
    · -- The new kid of the owner is the new mount point, placed in the owner's region.
      have : y' = q := by
        rcases List.mem_append.1 hy' with hy' | hy'
        · exact absurd same (fresh_ne y' hy')
        · exact List.mem_singleton.1 hy'
      subst this
      have hy : y ∈ v.points r := by
        rcases List.mem_append.1 hy with hy | hy
        · exact hy
        · rw [List.mem_singleton.1 hy] at owner
          exact absurd owner not_self
      subst owner
      obtain ⟨P, hP, idP, region, -⟩ := target
      have : y = P := List.inj_on_of_nodup_map s.ids hy hP idP.symm
      subst this
      exact region.symm
  · intro x hx some_elt
    obtain ⟨y, hy, rfl⟩ := mem.1 hx
    simp only [MountPoint.adopt_element, MountPoint.adopt_render] at some_elt ⊢
    rcases List.mem_append.1 hy with hy' | hy'
    · exact (yields y hy _).2 (s.shaped y hy' some_elt)
    · rw [List.mem_singleton.1 hy', elt] at some_elt
      cases some_elt
  · intro x hx no_elt held
    obtain ⟨z, hz, kid⟩ := held
    obtain ⟨y, hy, rfl⟩ := mem.1 hx
    obtain ⟨y', hy', rfl⟩ := mem.1 hz
    simp only [MountPoint.adopt_element, MountPoint.adopt_render, MountPoint.adopt_id] at no_elt kid ⊢
    refine (yields y hy _).2 ?_
    rcases y.kid_of_mem_adopt o q.id kid with old | ⟨owner, same⟩
    · rcases List.mem_append.1 hy with hy | hy
      · rcases List.mem_append.1 hy' with hy' | hy'
        · exact s.kidless y hy no_elt ⟨y', hy', old⟩
        · rw [List.mem_singleton.1 hy'] at old
          exact absurd (after_kids y hy _ old) (Nat.lt_irrefl _)
      · rw [List.mem_singleton.1 hy, kids] at old
        exact absurd old List.not_mem_nil
    · have hy : y ∈ v.points r := by
        rcases List.mem_append.1 hy with hy | hy
        · exact hy
        · rw [List.mem_singleton.1 hy] at owner
          exact absurd owner not_self
      subst owner
      obtain ⟨P, hP, idP, -, yieldsP⟩ := target
      have : y = P := List.inj_on_of_nodup_map s.ids hy hP idP.symm
      subst this
      exact yieldsP no_elt
  · intro x hx i fn
    obtain ⟨y, hy, rfl⟩ := mem.1 hx
    simp only [MountPoint.adopt_render] at fn
    rcases List.mem_append.1 hy with hy | hy
    · exact Nat.lt_of_lt_of_le (s.instances y hy i fn) h.instances
    · exact Nat.lt_of_lt_of_le (inst i (List.mem_singleton.1 hy ▸ fn)) h.instances

end Sound

end ViewEngine
