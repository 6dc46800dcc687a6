import Mathlib
import ViewEngine.Proofs.Engine.Retouch

/-! Render phases keep the mount point invariant under a steady program: mounting a node, rendering
a live mount point again and mounting children each leave every element the renderer made owned by
a live mount point exactly when it hangs under a mount container. -/

namespace ViewEngine

open Host Std.Do

set_option mvcgen.warning false

section Live

variable (r base : Nat) (roots : List Nat)

/-- A world whose layout is sound for the renderer and whose program is steady. -/
structure Live (w : World) : Prop where
  sound : Sound r base roots w.layout
  steady : w.program.Steady

/-- Places still to mount into, each a container with the owner of what goes there. -/
def Targets (v : Layout) (ts : List (Nat × Option Nat)) : Prop := ∀ t ∈ ts, Target r roots v t.1 t.2

/-- A mount point number above every live mount point and kid, and already handed out. -/
def Fresh (v : Layout) (id : Nat) : Prop :=
  (∀ p ∈ v.points r, p.id < id ∧ ∀ k ∈ p.kids, k < id) ∧ id ≤ v.next r

end Live

/-- The owners of the places come before a mount point. -/
def Older (ts : List (Nat × Option Nat)) (id : Nat) : Prop := ∀ t ∈ ts, ∀ k, t.2 = some k → k < id

/-- The layout has a live mount point of the renderer shaped like `p`. -/
def Layout.Shows (v : Layout) (r : Nat) (p : MountPoint) : Prop := ∃ q ∈ v.points r, q.shape = p.shape

section Retouch

variable {r base : Nat} {roots : List Nat} {v v' : Layout}

theorem Live.of_retouch {w w' : World} (live : Live r base roots w) (h : w.layout.Retouch w'.layout) :
    Live r base roots w' := by
  refine ⟨live.sound.of_retouch h, ?_⟩
  rw [World.program_of_retouch h]
  exact live.steady

/-- A place keeps its owner, with the owner's region and yield, through a change the invariant
cannot see. -/
theorem Targets.of_retouch (s : Sound r base roots v) {ts : List (Nat × Option Nat)}
    (targets : Targets r roots v ts) (h : v.Retouch v') : Targets r roots v' ts := by
  rintro ⟨c, o⟩ ht
  cases o with
  | none => exact targets _ ht
  | some k =>
    obtain ⟨P, hP, idP, region, yields⟩ := targets _ ht
    obtain ⟨Q, hQ, same⟩ := h.lower hP
    obtain ⟨sid, scont, selt, srender, -⟩ := MountPoint.shape_eq_shape.1 same
    refine ⟨Q, hQ, sid.trans idP, ?_, fun none => ?_⟩
    · simp only [MountPoint.region, selt, scont]
      exact region
    · rw [srender, RenderFn.yields_frame h.frame (s.instances P hP)]
      exact yields (selt ▸ none)

theorem Fresh.of_retouch {id : Nat} (fresh : Fresh r v id) (h : v.Retouch v') : Fresh r v' id := by
  refine ⟨fun q hq => ?_, Nat.le_trans fresh.2 (h.next r)⟩
  obtain ⟨p, hp, same⟩ := h.lift hq
  obtain ⟨sid, -, -, -, skids⟩ := MountPoint.shape_eq_shape.1 same
  rw [sid, skids]
  exact fresh.1 p hp

theorem Layout.Shows.of_retouch {p : MountPoint} (shows : v.Shows r p) (h : v.Retouch v') : v'.Shows r p := by
  obtain ⟨q, hq, same⟩ := shows
  obtain ⟨q', hq', same'⟩ := h.lower hq
  exact ⟨q', hq', same'.trans same⟩

/-- The owners of places are live, so a fresh number comes after all of them. -/
theorem Targets.older {ts : List (Nat × Option Nat)} {id : Nat} (targets : Targets r roots v ts)
    (fresh : Fresh r v id) : Older ts id := by
  rintro ⟨c, o⟩ ht k owner
  subst owner
  obtain ⟨P, hP, idP, -⟩ := targets _ ht
  exact idP ▸ (fresh.1 P hP).1

end Retouch


/-- A run keeps no backtracking state: a caught failure resumes in the world it stopped in. -/
theorem World.restore (s : World) (d : PUnit) : EStateM.Backtrackable.restore s d = s := rfl

/-- A run that finishes from every world meeting a condition, in a world related as wanted, meets
the triple. -/
theorem Run.triple_of_run {α : Type} {x : Run α} {P : World → Prop} {Q : α → World → Prop}
    (h : ∀ w, P w → ∃ a w', x.run w = .ok a w' ∧ Q a w') :
    ⦃fun w => ⌜P w⌝⦄ x ⦃⇓ a w => ⌜Q a w⌝⦄ := by
  intro w hw
  obtain ⟨a, w', run, q⟩ := h w hw
  simp only [wp, PredTrans.apply]
  rw [run]
  exact q

/-- Dropping mount points with distinct numbers keeps those not reached from the dropped ones. -/
theorem Run.dropPoints_triple (r : Nat) (ids : List Nat) (w₀ : World)
    (nodup : ((w₀.layout.points r).map (·.id)).Nodup) :
    ⦃fun w => ⌜w = w₀⌝⦄ dropPoints r ids
    ⦃⇓ _ w => ⌜∃ kept, w = { w₀ with renderers := w₀.renderers.modify r (fun rd => { rd with points := kept }) } ∧
      (∀ q, q ∈ kept ↔ q ∈ w₀.layout.points r ∧ ¬ Reached (w₀.layout.points r) ids q.id) ∧
      kept.Sublist (w₀.layout.points r)⌝⦄ := by
  apply Run.triple_of_run
  rintro w rfl
  obtain ⟨kept, n, run, mem, sub, -⟩ := Run.dropPoints_spec r ids w nodup
  exact ⟨n, _, run, kept, rfl, mem, sub⟩

section Steps

variable {r base : Nat} {roots : List Nat}

@[simp] theorem MountPoint.adopt_none (kid : Nat) (p : MountPoint) : p.adopt none kid = p := by
  simp [MountPoint.adopt]

theorem MountPoint.adopt_some (o kid : Nat) (p : MountPoint) :
    p.adopt (some o) kid = if (p.id == o) = true then { p with kids := p.kids ++ [kid] } else p := by
  by_cases same : p.id = o
  · simp [MountPoint.adopt, same]
  · have other : o ≠ p.id := fun h => same h.symm
    simp [MountPoint.adopt, same, other]

/-- Registering a fresh mount point, placed where a place says, keeps the invariant and every place. -/
theorem Live.register {w w' : World} {q : MountPoint} {o : Option Nat} {ts : List (Nat × Option Nat)}
    (live : Live r base roots w) (targets : Targets r roots w.layout ts) (mem : (q.container, o) ∈ ts)
    (fresh : Fresh r w.layout q.id) (elt : q.element = none) (kids : q.kids = [])
    (inst : ∀ i, q.render = .script i → i < w.instances.size)
    (program : w'.program = w.program) (doc : w'.doc = w.doc) (instances : w'.instances = w.instances)
    (size : w'.renderers.size = w.renderers.size)
    (others : ∀ r', r' ≠ r → w'.layout.points r' = w.layout.points r')
    (next : w.layout.next r ≤ w'.layout.next r)
    (pts : w'.layout.points r = (w.layout.points r ++ [q]).map (MountPoint.adopt o q.id)) :
    Live r base roots w' ∧ Targets r roots w'.layout ts ∧ Older ts q.id := by
  have frame : w.layout.Frame w'.layout :=
    ⟨program, size, by simp [World.layout, instances], fun i _ => by simp only [World.layout, instances]⟩
  have sound := live.sound.register frame doc others next (fun p hp => (fresh.1 p hp).1)
    (fun p hp => (fresh.1 p hp).2) fresh.2 elt kids (targets _ mem) inst pts
  refine ⟨⟨sound, program ▸ live.steady⟩, ?_, targets.older fresh⟩
  -- Every owner of a place is an old mount point, adopted with its region and yield.
  rintro ⟨c, o'⟩ ht
  cases o' with
  | none => exact targets _ ht
  | some k =>
    obtain ⟨P, hP, idP, region, yields⟩ := targets _ ht
    refine ⟨P.adopt o q.id, ?_, by simpa using idP, by simpa using region, fun none => ?_⟩
    · rw [pts]
      exact List.mem_map_of_mem (List.mem_append_left _ hP)
    · rw [MountPoint.adopt_render, RenderFn.yields_frame frame (live.sound.instances P hP)]
      exact yields (by simpa using none)

/-- Releasing the mount points reached from a mount point's kids after clearing its element keeps
the invariant and every place whose owner is older, and the mount point keeps its element as a
place for what it renders next. -/
theorem Live.clear {w w' : World} {p : MountPoint} {id el : Nat} {ts : List (Nat × Option Nat)}
    (live : Live r base roots w) (targets : Targets r roots w.layout ts) (older : Older ts id)
    (hp : p ∈ w.layout.points r) (pid : p.id = id) (own : p.element = some el) {kept : List MountPoint}
    (kept_mem : ∀ q, q ∈ kept ↔ q ∈ w.layout.points r ∧ ¬ Reached (w.layout.points r) p.kids q.id)
    (kept_sub : kept.Sublist (w.layout.points r))
    (program : w'.program = w.program) (instances : w'.instances = w.instances)
    (size : w'.renderers.size = w.renderers.size) (doc : w'.doc = w.doc.removeChildren el)
    (others : ∀ r', r' ≠ r → w'.layout.points r' = w.layout.points r')
    (next : w.layout.next r ≤ w'.layout.next r)
    (pts : w'.layout.points r = kept.map (fun q => if q.id == p.id then { q with kids := [] } else q)) :
    Live r base roots w' ∧ Targets r roots w'.layout ts ∧ Target r roots w'.layout el (some id) := by
  have frame : w.layout.Frame w'.layout :=
    ⟨program, size, by simp [World.layout, instances], fun i _ => by simp only [World.layout, instances]⟩
  have sound := live.sound.clear frame others next hp own kept_mem kept_sub doc pts
  -- Mount points no older than `p` stay, `p` itself with no kids.
  have stays : ∀ q ∈ w.layout.points r, q.id ≤ id →
      (if q.id == p.id then { q with kids := [] } else q) ∈ w'.layout.points r := by
    intro q hq le
    rw [pts]
    refine List.mem_map_of_mem ((kept_mem q).2 ⟨hq, fun reached => ?_⟩)
    exact absurd (pid ▸ live.sound.reached_after hp reached) (Nat.not_lt.2 le)
  refine ⟨⟨sound, program ▸ live.steady⟩, ?_, ?_⟩
  · rintro ⟨c, o⟩ ht
    cases o with
    | none => exact targets _ ht
    | some k =>
      obtain ⟨P, hP, idP, region, yields⟩ := targets _ ht
      have lt : P.id < id := idP ▸ older _ ht k rfl
      have other : (P.id == p.id) = false := by simp [pid]; omega
      have kept_P := stays P hP (Nat.le_of_lt lt)
      rw [other] at kept_P
      refine ⟨P, kept_P, idP, region, fun none => ?_⟩
      rw [RenderFn.yields_frame frame (live.sound.instances P hP)]
      exact yields none
  · have kept_p := stays p hp (Nat.le_of_eq pid)
    simp only [beq_self_eq_true, ite_true] at kept_p
    exact ⟨_, kept_p, pid, by simp [MountPoint.region, own], fun none => by simp [own] at none⟩

/-- Giving a mount point with no element and no live kids a new element, appended to its container,
keeps the invariant and every place whose owner is older, and the new element is a place for what
the mount point renders. -/
theorem Live.attach {w w' : World} {p : MountPoint} {id : Nat} {ts : List (Nat × Option Nat)} (tag : String)
    (live : Live r base roots w) (targets : Targets r roots w.layout ts) (older : Older ts id)
    (hp : p ∈ w.layout.points r) (pid : p.id = id) (elt : p.element = none)
    (yields : RenderFn.Yields w.layout p.render .element) (only : ¬ RenderFn.Yields w.layout p.render .container)
    (program : w'.program = w.program) (instances : w'.instances = w.instances)
    (size : w'.renderers.size = w.renderers.size)
    (doc : w'.doc = (w.doc.create tag).1.appendChild p.container w.doc.elements.size)
    (others : ∀ r', r' ≠ r → w'.layout.points r' = w.layout.points r')
    (next : w.layout.next r ≤ w'.layout.next r)
    (pts : w'.layout.points r = (w.layout.points r).map
      (fun q => if q.id == p.id then { q with element := some w.doc.elements.size } else q)) :
    Live r base roots w' ∧ Targets r roots w'.layout ts ∧ Target r roots w'.layout w.doc.elements.size (some id) := by
  have frame : w.layout.Frame w'.layout :=
    ⟨program, size, by simp [World.layout, instances], fun i _ => by simp only [World.layout, instances]⟩
  -- A mount point yielding into an element has no live kids while it has no element.
  have alone : ∀ q ∈ w.layout.points r, q.id ∉ p.kids :=
    fun q hq kid => only (live.sound.kidless p hp elt ⟨q, hq, kid⟩)
  have sound := live.sound.create frame others next hp elt alone yields tag doc pts
  have moved : ∀ q ∈ w.layout.points r,
      (if q.id == p.id then { q with element := some w.doc.elements.size } else q) ∈ w'.layout.points r := by
    intro q hq
    rw [pts]
    exact List.mem_map_of_mem hq
  refine ⟨⟨sound, program ▸ live.steady⟩, ?_, ?_⟩
  · rintro ⟨c, o⟩ ht
    cases o with
    | none => exact targets _ ht
    | some k =>
      obtain ⟨P, hP, idP, region, yieldsP⟩ := targets _ ht
      have other : (P.id == p.id) = false := by
        have := older _ ht k rfl
        simp [pid]
        omega
      have kept := moved P hP
      rw [other] at kept
      refine ⟨P, kept, idP, region, fun none => ?_⟩
      rw [RenderFn.yields_frame frame (live.sound.instances P hP)]
      exact yieldsP none
  · have kept := moved p hp
    simp only [beq_self_eq_true, ite_true] at kept
    exact ⟨_, kept, pid, rfl, fun none => by simp at none⟩

end Steps

section Phase

/-! A render phase finds its mount point, calls its render function and sends what it rendered where
the function yields: into the container through a fragment or a component, into an element of its
own otherwise. Under a steady program the yield of every live mount point is fixed, so what it
rendered tells it. -/

variable {r base : Nat} {roots : List Nat} {w w' : World} {p : MountPoint} {id : Nat} {out : Value}
  {parts : Parts}

@[simp] theorem Targets_cons {v : Layout} {t : Nat × Option Nat} {ts : List (Nat × Option Nat)} :
    Targets r roots v (t :: ts) ↔ Target r roots v t.1 t.2 ∧ Targets r roots v ts := by
  simp [Targets]

theorem Live.targets_of_retouch {ts : List (Nat × Option Nat)} (live : Live r base roots w)
    (targets : Targets r roots w.layout ts) (h : w.layout.Retouch w'.layout) : Targets r roots w'.layout ts :=
  targets.of_retouch live.sound h

theorem Live.target_of_retouch {c : Nat} {o : Option Nat} (live : Live r base roots w)
    (target : Target r roots w.layout c o) (h : w.layout.Retouch w'.layout) : Target r roots w'.layout c o := by
  have := live.targets_of_retouch (show Targets r roots w.layout [(c, o)] by simpa [Targets] using target) h
  simpa [Targets] using this

theorem found_mem (found : some p = (w.layout.points r).find? (fun q => q.id == id)) :
    p ∈ w.layout.points r ∧ p.id = id :=
  ⟨List.mem_of_find?_eq_some found.symm, by simpa using List.find?_some found.symm⟩

/-- The render function of a live mount point names an instance that exists. -/
theorem Live.placed {w₀ : World} (live : Live r base roots w₀) (h₀ : w₀.layout.Retouch w.layout)
    (found : some p = (w.layout.points r).find? (fun q => q.id == id)) :
    ∀ i, p.render = .script i → i < w.layout.instances.size :=
  (live.of_retouch h₀).sound.instances p (found_mem found).1

/-- Under a steady program a render function yields exactly where what it rendered goes. -/
theorem Live.yields_iff (live : Live r base roots w) (fits : out.Fits w.layout p.render)
    (split : out.asNode?.bind split = some parts) (y : Yield) :
    RenderFn.Yields w.layout p.render y ↔ parts.tag.yield? = some y := by
  obtain ⟨y₀, yields₀⟩ := RenderFn.yields_of_steady (v := w.layout) live.steady p.render
  refine ⟨fun yields => fits y yields parts split, fun tag => ?_⟩
  obtain rfl := Option.some.inj ((fits y₀ yields₀ parts split).symm.trans tag)
  exact yields₀

/-- What a live mount point rendered goes into its container when the tag says so, and the mount
point, which then has no element, owns that place. -/
theorem Live.container_ready {w₀ : World} {ts : List (Nat × Option Nat)} (live : Live r base roots w₀)
    (targets : Targets r roots w₀.layout ts) (h₀ : w₀.layout.Retouch w.layout)
    (found : some p = (w.layout.points r).find? (fun q => q.id == id)) (fits : out.Fits w.layout p.render)
    (split : out.asNode?.bind split = some parts) (yc : parts.tag.yield? = some .container)
    (h : w.layout.Retouch w'.layout) :
    Live r base roots w' ∧ Targets r roots w'.layout ((p.container, some id) :: ts) ∧
      (p.container, some id) ∈ (p.container, some id) :: ts := by
  have live₁ := live.of_retouch h₀
  obtain ⟨hp, pid⟩ := found_mem found
  have yields := live₁.yields_iff fits split
  -- A mount point with an element yields into it, so this one has none.
  have elt : p.element = none := by
    cases e : p.element with
    | none => rfl
    | some el =>
      have into := (yields .element).1 (live₁.sound.shaped p hp (by simp [e]))
      rw [yc] at into
      cases into
  obtain ⟨q, hq, same⟩ := h.lower hp
  obtain ⟨qid, qcont, qelt, qrender, -⟩ := MountPoint.shape_eq_shape.1 same
  have target : Target r roots w'.layout p.container (some id) := by
    refine ⟨q, hq, qid.trans pid, by simp [MountPoint.region, qelt, elt, qcont], fun _ => ?_⟩
    rw [qrender, RenderFn.yields_frame h.frame (live₁.sound.instances p hp)]
    exact (yields .container).2 yc
  exact ⟨live₁.of_retouch h, Targets_cons.2 ⟨target, live.targets_of_retouch targets (h₀.trans h)⟩,
    List.mem_cons_self⟩

/-- What a live mount point rendered goes into an element of its own when the tag says so: its
render function yields there and not into its container. -/
theorem Live.host_ready {w₀ : World} {ts : List (Nat × Option Nat)} (live : Live r base roots w₀)
    (targets : Targets r roots w₀.layout ts) (older : Older ts id) (h₀ : w₀.layout.Retouch w.layout)
    (found : some p = (w.layout.points r).find? (fun q => q.id == id)) (fits : out.Fits w.layout p.render)
    (split : out.asNode?.bind split = some parts) (ye : parts.tag.yield? = some .element)
    (h : w.layout.Retouch w'.layout) :
    Live r base roots w' ∧ Targets r roots w'.layout ts ∧ Older ts id ∧ w'.layout.Shows r p ∧ p.id = id ∧
      RenderFn.Yields w'.layout p.render .element ∧ ¬ RenderFn.Yields w'.layout p.render .container := by
  have live₁ := live.of_retouch h₀
  obtain ⟨hp, pid⟩ := found_mem found
  have yields := live₁.yields_iff fits split
  have frame := fun y => RenderFn.yields_frame h.frame (live₁.sound.instances p hp) y
  obtain ⟨q, hq, same⟩ := h.lower hp
  refine ⟨live₁.of_retouch h, live.targets_of_retouch targets (h₀.trans h), older, ⟨q, hq, same⟩, pid,
    (frame _).2 ((yields _).2 ye), fun yc => ?_⟩
  have into := (yields _).1 ((frame _).1 yc)
  rw [ye] at into
  cases into

theorem Value.yield_of_isFragment {v : Value} (h : v.isFragment = true) : v.yield? = some .container := by
  cases v <;> simp_all [Value.isFragment, Value.yield?]

theorem Value.yield_of_component {v : Value} (h : (v.component?).isSome = true) : v.yield? = some .container := by
  cases v <;> simp_all [Value.component?, Value.yield?]

theorem Value.yield_of_str {v : Value} {name : String} (h : v = .str name) (plain : ¬ v.isFragment = true) :
    v.yield? = some .element := by
  subst h
  simp_all [Value.isFragment, Value.yield?]

/-- A number handed out by the renderer is fresh from then on, and the invariant and the places
stay through changes it cannot see. -/
theorem Live.reserved {w₀ w₁ w : World} {id : Nat} {ts : List (Nat × Option Nat)}
    (live : Live r base roots w₀) (targets : Targets r roots w₀.layout ts)
    (reserved : w₀.layout.Retouch w₁.layout ∧ id = w₀.layout.next r + 1 ∧
      (r < w₁.renderers.size → w₁.layout.next r = id))
    (h : w₁.layout.Retouch w.layout) :
    Live r base roots w ∧ Targets r roots w.layout ts ∧ Fresh r w.layout id := by
  obtain ⟨h₁, rfl, next⟩ := reserved
  have live₁ := live.of_retouch h₁
  -- Right after the reservation the mount points are the old ones, all numbered below it.
  have fresh : Fresh r w₁.layout (w₀.layout.next r + 1) := by
    refine ⟨fun q hq => ?_, Nat.le_of_eq (next live₁.sound.present).symm⟩
    obtain ⟨p, hp, same⟩ := h₁.lift hq
    obtain ⟨sid, -, -, -, skids⟩ := MountPoint.shape_eq_shape.1 same
    rw [sid, skids]
    exact ⟨Nat.lt_succ_of_le (live.sound.fresh p hp),
      fun k hk => Nat.lt_succ_of_le (live.sound.kids_after p hp k hk).2⟩
  exact ⟨live₁.of_retouch h, live.targets_of_retouch targets (h₁.trans h), fresh.of_retouch h⟩

end Phase

namespace Run

variable {r base : Nat} {roots : List Nat}

theorem register_live (q : MountPoint) (o : Option Nat) (ts : List (Nat × Option Nat)) :
    ⦃fun w => ⌜Live r base roots w ∧ Targets r roots w.layout ts ∧ (q.container, o) ∈ ts ∧
      Fresh r w.layout q.id ∧ q.element = none ∧ q.kids = [] ∧ ∀ i, q.render = .script i → i < w.instances.size⌝⦄
    register r q o
    ⦃⇓ _ w => ⌜Live r base roots w ∧ Targets r roots w.layout ts ∧ Older ts q.id⌝⦄ := by
  -- The layout after the three changes of the renderer is computed through each `modify`.
  cases o with
  | none =>
    mvcgen [register, addPoint, count, modifyRenderer]
    obtain ⟨live, targets, mem, fresh, elt, kids, inst⟩ := ‹Live r base roots _ ∧ _›
    have present := live.sound.present
    simp only [World.layout] at present
    refine Live.register live targets mem fresh elt kids inst rfl rfl rfl (by simp +zetaDelta) ?_ ?_ ?_
    · intro r' ne
      simp +zetaDelta only [World.layout, Layout.points, Array.getD_modify, Array.size_modify, Ne.symm ne,
        false_and, if_false]
    · simp +zetaDelta only [World.layout, Layout.next, Array.getD_modify, Array.size_modify, present, and_self,
        if_true, Nat.le_refl]
    · have same : MountPoint.adopt none q.id = id := funext (MountPoint.adopt_none q.id)
      simp +zetaDelta only [World.layout, Layout.points, Array.getD_modify, Array.size_modify, present, and_self,
        if_true, same, List.map_id]
  | some k =>
    mvcgen [register, addPoint, count, modifyPoint, modifyRenderer]
    obtain ⟨live, targets, mem, fresh, elt, kids, inst⟩ := ‹Live r base roots _ ∧ _›
    have present := live.sound.present
    simp only [World.layout] at present
    refine Live.register live targets mem fresh elt kids inst rfl rfl rfl (by simp +zetaDelta) ?_ ?_ ?_
    · intro r' ne
      simp +zetaDelta only [World.layout, Layout.points, Array.getD_modify, Array.size_modify, Ne.symm ne,
        false_and, if_false]
    · simp +zetaDelta only [World.layout, Layout.next, Array.getD_modify, Array.size_modify, present, and_self,
        if_true, Nat.le_refl]
    · have same : MountPoint.adopt (some k) q.id = _ := funext (MountPoint.adopt_some k q.id)
      simp +zetaDelta only [World.layout, Layout.points, Array.getD_modify, Array.size_modify, present, and_self,
        if_true, same]

theorem clearElement_live (id el : Nat) (p : MountPoint) (ts : List (Nat × Option Nat)) :
    ⦃fun w => ⌜Live r base roots w ∧ Targets r roots w.layout ts ∧ Older ts id ∧ w.layout.Shows r p ∧
      p.id = id ∧ p.element = some el⌝⦄
    clearElement r id el
    ⦃⇓ _ w => ⌜Live r base roots w ∧ Targets r roots w.layout ts ∧ Target r roots w.layout el (some id)⌝⦄ := by
  mvcgen [clearElement, release, modifyDoc, point?, renderer, dropPoints_triple, modifyPoint, count,
    modifyRenderer]
  case vc1.h_1 =>
    -- The mount point shaped like `p` is found by its number.
    obtain ⟨-, -, -, ⟨q, hq, shape⟩, pid, -⟩ := ‹Live r base roots _ ∧ _›
    have qid : q.id = id := (MountPoint.shape_eq_shape.1 shape).1.trans pid
    have missing := List.find?_eq_none.1 ‹_ = none› q hq
    simp [qid] at missing
  case vc2.nodup =>
    have pre := ‹Live r base roots _ ∧ _›
    exact pre.1.sound.ids
  all_goals
    obtain ⟨live, targets, older, ⟨q, hq, shape⟩, pid, own⟩ := ‹Live r base roots _ ∧ _›
    obtain ⟨kept, rfl, kept_mem, kept_sub⟩ := ‹∃ kept, _›
    have found := ‹List.find? _ _ = some _›
    have hfound := List.mem_of_find?_eq_some found
    have fid := List.find?_some found
    simp only [beq_iff_eq] at fid
    -- The mount point found by its number is the one shaped like `p`.
    obtain ⟨qid, -, qelt, -⟩ := MountPoint.shape_eq_shape.1 shape
    have same := List.inj_on_of_nodup_map live.sound.ids hfound hq (fid.trans (qid.trans pid).symm)
    subst same
    have present := live.sound.present
    simp only [World.layout] at present
    refine Live.clear live targets older hq fid (qelt.trans own) kept_mem kept_sub rfl rfl (by simp +zetaDelta)
      rfl ?_ ?_ ?_
    · intro r' ne
      simp +zetaDelta only [World.layout, Layout.points, Array.getD_modify, Array.size_modify, Ne.symm ne,
        false_and, if_false]
    · simp +zetaDelta only [World.layout, Layout.next, Array.getD_modify, Array.size_modify, present, and_self,
        if_true, Nat.le_refl]
    · simp +zetaDelta only [World.layout, Layout.points, Array.getD_modify, Array.size_modify, present, and_self,
        if_true, fid]

/-- The element a host render goes into keeps the invariant and the places of older owners, and is
itself a place for what the mount point renders. -/
theorem hostElement_live (id : Nat) (p : MountPoint) (tag : String) (ts : List (Nat × Option Nat)) :
    ⦃fun w => ⌜Live r base roots w ∧ Targets r roots w.layout ts ∧ Older ts id ∧ w.layout.Shows r p ∧
      p.id = id ∧ RenderFn.Yields w.layout p.render .element ∧ ¬ RenderFn.Yields w.layout p.render .container⌝⦄
    hostElement r id p tag
    ⦃⇓ el w => ⌜Live r base roots w ∧ Targets r roots w.layout ts ∧ Target r roots w.layout el (some id)⌝⦄ := by
  unfold hostElement
  split
  · -- No element yet: the live mount point shaped like `p` gets a new one.
    mvcgen [attach, createElement, modifyDoc, modifyPoint, modifyRenderer]
    obtain ⟨live, targets, older, ⟨q, hq, shape⟩, pid, yields, only⟩ := ‹Live r base roots _ ∧ _›
    obtain ⟨qid, qcont, qelt, qrender, -⟩ := MountPoint.shape_eq_shape.1 shape
    have present := live.sound.present
    simp only [World.layout] at present
    refine Live.attach (p := q) tag live targets older hq (qid.trans pid) (qelt.trans ‹_›)
      (qrender ▸ yields) (qrender ▸ only) rfl rfl (by simp +zetaDelta) ?_ ?_ ?_ ?_
    · simp +zetaDelta only [qcont, Document.create_snd]
    · intro r' ne
      simp +zetaDelta only [World.layout, Layout.points, Array.getD_modify, Ne.symm ne,
        false_and, if_false]
    · simp +zetaDelta only [World.layout, Layout.next, Array.getD_modify, present, and_self,
        if_true, Nat.le_refl]
    · simp +zetaDelta only [World.layout, Layout.points, Array.getD_modify, present, and_self,
        if_true, qid, pid, Document.create_snd]
  · -- An element already: it stays the place, cleared first when the renderer clears on update.
    mvcgen [renderer, clearElement_live]
    all_goals obtain ⟨live, targets, older, ⟨q, hq, shape⟩, pid, -, -⟩ := ‹Live r base roots _ ∧ _›
    · exact ⟨live, targets, older, ⟨q, hq, shape⟩, pid, ‹_›⟩
    · obtain ⟨qid, -, qelt, -⟩ := MountPoint.shape_eq_shape.1 shape
      refine ⟨live, targets, q, hq, qid.trans pid, ?_, fun none => ?_⟩
      · simp [MountPoint.region, qelt, ‹p.element = _›]
      · simp [qelt, ‹p.element = _›] at none

/-- What the render phases keep at a fuel: mounting a node into a place, rendering a live mount
point again and mounting children into a place each keep the invariant, and, when they finish, the
places whose owners are older. -/
structure RenderKeeps (r base : Nat) (roots : List Nat) (n : Nat) : Prop where
  mount : ∀ v c o ts, ⦃fun w => ⌜Live r base roots w ∧ Targets r roots w.layout ts ∧ (c, o) ∈ ts⌝⦄
    mount n r v c o
    ⦃post⟨fun _ w => ⌜Live r base roots w ∧ Targets r roots w.layout ts⌝, fun _ w => ⌜Live r base roots w⌝⟩⦄
  renderPhase : ∀ id first ts, ⦃fun w => ⌜Live r base roots w ∧ Targets r roots w.layout ts ∧ Older ts id⌝⦄
    renderPhase n r id first
    ⦃post⟨fun _ w => ⌜Live r base roots w ∧ Targets r roots w.layout ts⌝, fun _ w => ⌜Live r base roots w⌝⟩⦄
  mountChildren : ∀ cs into owner ts,
    ⦃fun w => ⌜Live r base roots w ∧ Targets r roots w.layout ts ∧ (into, some owner) ∈ ts⌝⦄
    mountChildren n r cs into owner
    ⦃post⟨fun _ w => ⌜Live r base roots w ∧ Targets r roots w.layout ts⌝, fun _ w => ⌜Live r base roots w⌝⟩⦄

theorem renderPhase_step (n : Nat) (ih : RenderKeeps r base roots n) (id : Nat) (first : Bool)
    (ts : List (Nat × Option Nat)) :
    ⦃fun w => ⌜Live r base roots w ∧ Targets r roots w.layout ts ∧ Older ts id⌝⦄
    renderPhase (n + 1) r id first
    ⦃post⟨fun _ w => ⌜Live r base roots w ∧ Targets r roots w.layout ts⌝, fun _ w => ⌜Live r base roots w⌝⟩⦄ := by
  have children := fun cs into owner => ih.mountChildren cs into owner ((into, some owner) :: ts)
  have mounted := fun v c o => ih.mount v c o ((c, o) :: ts)
  have host := @hostElement_live r base roots
  have flag := fun v b => modifyPoint_spec v r id (fun p => { p with rendering := b }) (fun _ => rfl)
  rw [renderPhase]
  mvcgen [andFinally, flag, point?_spec, callRender_spec, count_spec, host, applyProps_spec, children, mounted,
    fail]
  case inst =>
    obtain ⟨live, -, -⟩ := ‹Live r base roots _ ∧ Targets r roots _ ts ∧ Older ts id›
    obtain ⟨-, found⟩ := ‹_ ∧ some _ = _›
    exact live.placed (by grind only [→ Layout.Retouch.trans]) found
  case h_2.isTrue.pre =>
    -- A fragment: its children go into the container, owned by the mount point.
    obtain ⟨live, targets, -⟩ := ‹Live r base roots _ ∧ Targets r roots _ ts ∧ Older ts id›
    obtain ⟨-, found⟩ := ‹_ ∧ some _ = _›
    obtain ⟨-, fits⟩ := ‹_ ∧ Value.Fits _ _ _›
    exact live.container_ready targets (by grind only [→ Layout.Retouch.trans]) found fits ‹_›
      (Value.yield_of_isFragment ‹_›) (by grind only [→ Layout.Retouch.trans])
  case isFalse.isTrue.pre =>
    -- A component: it is mounted into the container, owned by the mount point.
    obtain ⟨live, targets, -⟩ := ‹Live r base roots _ ∧ Targets r roots _ ts ∧ Older ts id›
    obtain ⟨-, found⟩ := ‹_ ∧ some _ = _›
    obtain ⟨-, fits⟩ := ‹_ ∧ Value.Fits _ _ _›
    exact live.container_ready targets (by grind only [→ Layout.Retouch.trans]) found fits ‹_›
      (Value.yield_of_component ‹_›) (by grind only [→ Layout.Retouch.trans])
  case h_1.pre =>
    -- A host node: it goes into the mount point's element.
    obtain ⟨live, targets, older⟩ := ‹Live r base roots _ ∧ Targets r roots _ ts ∧ Older ts id›
    obtain ⟨-, found⟩ := ‹_ ∧ some _ = _›
    obtain ⟨-, fits⟩ := ‹_ ∧ Value.Fits _ _ _›
    exact live.host_ready targets older (by grind only [→ Layout.Retouch.trans]) found fits ‹_›
      (Value.yield_of_str ‹_› ‹_›) (by grind only [→ Layout.Retouch.trans])
  all_goals grind only [→ Layout.Retouch.trans, → Live.of_retouch, → Live.targets_of_retouch,
    → Live.target_of_retouch, Targets_cons, World.restore, List.mem_cons_self]

theorem mount_step (n : Nat) (ih : RenderKeeps r base roots n) (v : Value) (c : Nat) (o : Option Nat)
    (ts : List (Nat × Option Nat)) :
    ⦃fun w => ⌜Live r base roots w ∧ Targets r roots w.layout ts ∧ (c, o) ∈ ts⌝⦄
    mount (n + 1) r v c o
    ⦃post⟨fun _ w => ⌜Live r base roots w ∧ Targets r roots w.layout ts⌝, fun _ w => ⌜Live r base roots w⌝⟩⦄ := by
  have phase := fun id first => ih.renderPhase id first ts
  have registered := @register_live r base roots
  rw [mount]
  mvcgen [reserve_spec, renderer_spec, compose_spec, instantiate_spec, count_spec, registered, phase, fail]
  case steady =>
    obtain ⟨live, -, -⟩ := ‹Live r base roots _ ∧ Targets r roots _ ts ∧ (c, o) ∈ ts›
    exact (live.of_retouch (by grind only [→ Layout.Retouch.trans])).steady
  case h_1.post.success.post.success.post.success.post.success.pre =>
    -- A component: set up, its render function names an instance that exists.
    rename_i w _
    obtain ⟨live, targets, mem⟩ := ‹Live r base roots _ ∧ Targets r roots _ ts ∧ (c, o) ∈ ts›
    obtain ⟨-, placed⟩ := ‹_ ∧ ∀ i, _ = RenderFn.script i → _›
    obtain ⟨live', targets', fresh⟩ := live.reserved (w := w) targets ‹_ ∧ _ = _ ∧ _›
      (by grind only [→ Layout.Retouch.trans])
    exact ⟨live', targets', mem, fresh, trivial, trivial,
      fun i hi => Nat.lt_of_lt_of_le (placed i hi) (World.instances_of_retouch ‹Layout.Retouch _ _›)⟩
  case h_2.h_1.pre =>
    -- A host tag: its render function rebuilds the node.
    obtain ⟨live, targets, mem⟩ := ‹Live r base roots _ ∧ Targets r roots _ ts ∧ (c, o) ∈ ts›
    obtain ⟨live', targets', fresh⟩ := live.reserved targets ‹_ ∧ _ = _ ∧ _› (Layout.Retouch.refl _)
    exact ⟨live', targets', mem, fresh, trivial, trivial, fun i hi => by cases hi⟩
  all_goals grind only [→ Layout.Retouch.trans, → Live.of_retouch]

theorem mountChildren_step (n : Nat) (ih : RenderKeeps r base roots n) (cs : List Value) (into owner : Nat)
    (ts : List (Nat × Option Nat)) :
    ⦃fun w => ⌜Live r base roots w ∧ Targets r roots w.layout ts ∧ (into, some owner) ∈ ts⌝⦄
    mountChildren (n + 1) r cs into owner
    ⦃post⟨fun _ w => ⌜Live r base roots w ∧ Targets r roots w.layout ts⌝, fun _ w => ⌜Live r base roots w⌝⟩⦄ := by
  cases cs with
  | nil =>
    mvcgen [mountChildren]
    exact ⟨‹_ ∧ _ ∧ _›.1, ‹_ ∧ _ ∧ _›.2.1⟩
  | cons c rest =>
    have mounted := fun v => ih.mount v into (some owner) ts
    have later := ih.mountChildren rest into owner ts
    have text := fun v => modifyDoc_spec v _ (fun d => Document.SameTree.appendText d into c.text)
    rw [mountChildren]
    mvcgen [mounted, later, text]
    all_goals grind only [→ Layout.Retouch.trans, → Live.of_retouch, → Live.targets_of_retouch]

/-- The render phases keep the invariant at every fuel. -/
theorem renderKeeps (n : Nat) : RenderKeeps r base roots n := by
  induction n with
  | zero =>
    -- Out of fuel, each stops at once and leaves the world as it was.
    refine ⟨fun v c o ts => ?_, fun id first ts => ?_, fun cs into owner ts => ?_⟩
    all_goals
      mvcgen [mount, renderPhase, mountChildren]
      exact ‹_ ∧ _›.1
  | succ n ih => exact ⟨mount_step n ih, renderPhase_step n ih, mountChildren_step n ih⟩

end Run

end ViewEngine
