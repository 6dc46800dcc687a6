import ViewEngine.Proofs.Live.Listeners

/-! The mount point arena. A renderer's mount points have distinct numbers, and each lists as kids
only mount points numbered after it: a mount point is registered under a number reserved after
every number handed out when its mount began, its owner's among them, and only then joins its
owner's kids. Every engine function, at every fuel and whether it finishes or stops, keeps this,
so the kids relation of every world a host program reaches is acyclic, and dropping mount points
there takes out exactly those reached from the dropped ids through kids lists. -/

namespace ViewEngine

open Host Std.Do

set_option mvcgen.warning false

/-- The mount points of a renderer form an arena: their numbers are distinct, and each lists as
kids only numbers handed out after its own. -/
structure Arena (points : List MountPoint) : Prop where
  ids : (points.map (·.id)).Nodup
  kids_after : ∀ p ∈ points, ∀ k ∈ p.kids, p.id < k

/-- The mount point numbered `a` lists `b` among its kids. -/
def Kid (points : List MountPoint) (a b : Nat) : Prop := ∃ p ∈ points, p.id = a ∧ b ∈ p.kids

namespace Arena

theorem nil : Arena [] := ⟨List.nodup_nil, fun _ h => absurd h List.not_mem_nil⟩

/-- Some of an arena's mount points, in order, form an arena. -/
theorem sublist {ps qs : List MountPoint} (a : Arena ps) (sub : qs.Sublist ps) : Arena qs :=
  ⟨(sub.map _).nodup a.ids, fun p hp => a.kids_after p (sub.subset hp)⟩

/-- Changing the mount points of one number without renumbering them keeps an arena, as long as
every kid they gain is numbered after them. -/
theorem map {ps : List MountPoint} (a : Arena ps) (id : Nat) (f : MountPoint → MountPoint)
    (keeps : ∀ p, (f p).id = p.id) (kids : ∀ p, p.id = id → ∀ k ∈ (f p).kids, k ∈ p.kids ∨ p.id < k) :
    Arena (ps.map (fun p => if p.id == id then f p else p)) := by
  have same : (ps.map (fun p => if p.id == id then f p else p)).map (·.id) = ps.map (·.id) := by
    rw [List.map_map]
    exact List.map_congr_left (fun p _ => by by_cases h : p.id = id <;> simp [h, keeps])
  refine ⟨same ▸ a.ids, fun q hq k hk => ?_⟩
  obtain ⟨p, hp, rfl⟩ := List.mem_map.1 hq
  by_cases changed : p.id = id
  · simp only [changed, beq_self_eq_true, if_true, keeps] at hk ⊢
    rcases kids p changed k hk with old | after
    · exact changed ▸ a.kids_after p hp k old
    · exact changed ▸ after
  · simp only [beq_iff_eq, changed, if_false] at hk ⊢
    exact a.kids_after p hp k hk

/-- A mount point with a new number and no kids numbered before it joins an arena. -/
theorem append {ps : List MountPoint} (a : Arena ps) {p : MountPoint} (fresh : ∀ q ∈ ps, q.id ≠ p.id)
    (kids : ∀ k ∈ p.kids, p.id < k) : Arena (ps ++ [p]) := by
  refine ⟨?_, fun q hq => ?_⟩
  · rw [List.map_append, List.nodup_append]
    refine ⟨a.ids, List.nodup_singleton _, fun x hx y hy same => ?_⟩
    obtain ⟨q, hq, rfl⟩ := List.mem_map.1 hx
    rw [List.map_singleton, List.mem_singleton] at hy
    exact fresh q hq (same.trans hy)
  · rcases List.mem_append.1 hq with old | added
    · exact a.kids_after q old
    · exact List.mem_singleton.1 added ▸ kids

/-- Following kids only goes to higher numbers. -/
theorem lt_of_transGen {ps : List MountPoint} (a : Arena ps) {i j : Nat} (h : Relation.TransGen (Kid ps) i j) :
    i < j := by
  induction h with
  | single step =>
    obtain ⟨p, hp, rfl, kid⟩ := step
    exact a.kids_after p hp _ kid
  | tail _ step ih =>
    obtain ⟨p, hp, rfl, kid⟩ := step
    exact Nat.lt_trans ih (a.kids_after p hp _ kid)

/-- The kids relation of an arena is acyclic: no mount point reaches itself through kids. -/
theorem acyclic {ps : List MountPoint} (a : Arena ps) (i : Nat) : ¬ Relation.TransGen (Kid ps) i i :=
  fun h => Nat.lt_irrefl i (a.lt_of_transGen h)

end Arena

/-- The arena of a world: its renderers, seen without the document. -/
def World.arena (w : World) : Scene := ⟨Document.empty, w.renderers⟩

/-- A world built with another's renderers has its arena. -/
@[simp, grind =] theorem World.arena_mk (w : World) (program doc states capsets timers bus busDisposers instances
    triggers trace budget) :
    (World.mk program doc w.renderers states capsets timers bus busDisposers instances triggers trace
      budget).arena = w.arena := rfl

/-- Every renderer of a scene keeps its mount points as an arena. -/
def Scene.Tidy (s : Scene) : Prop := ∀ r, Arena (s.points r)

/-- Changing one renderer so that its mount points stay an arena keeps a scene tidy. -/
theorem Scene.Tidy.renderer {s : Scene} (t : s.Tidy) (d : Document Listener) (r : Nat) (f : Renderer → Renderer)
    (keeps : Arena (s.points r) → Arena (f (s.renderers.getD r Renderer.default)).points) :
    Scene.Tidy ⟨d, s.renderers.modify r f⟩ := by
  intro r'
  rw [Scene.points_modify]
  split
  · obtain ⟨rfl, -⟩ := ‹r = r' ∧ _›
    exact keeps (t r)
  · exact t r'

namespace Run

/-! Every step below is specified against an earlier arena `s₀`: if the world's arena is later than
`s₀` and tidy before the step, it still is after it. Steps that never touch the renderers keep it
as they find it, and are opened where they are used. -/

section Primitives

variable (s₀ : Scene)

theorem renderer_arena (r : Nat) :
    ⦃fun w => ⌜s₀.Later w.arena ∧ w.arena.Tidy⌝⦄ renderer r
    ⦃⇓ rd w => ⌜(s₀.Later w.arena ∧ w.arena.Tidy) ∧ rd = w.renderers.getD r Renderer.default⌝⦄ := by
  mvcgen [renderer]

/-- A live mount point found by its number has a number handed out. -/
theorem point?_arena (r id : Nat) :
    ⦃fun w => ⌜s₀.Later w.arena ∧ w.arena.Tidy⌝⦄ point? r id
    ⦃⇓ found w => ⌜(s₀.Later w.arena ∧ w.arena.Tidy) ∧ (found.isSome → id ≤ w.arena.next r)⌝⦄ := by
  mvcgen [point?, renderer]
  obtain ⟨later, tidy⟩ := ‹s₀.Later _ ∧ _›
  refine ⟨⟨later, tidy⟩, fun found => ?_⟩
  obtain ⟨p, hp⟩ := Option.isSome_iff_exists.1 found
  have same : p.id = id := by simpa using List.find?_some hp
  exact same ▸ later.numbered r p (List.mem_of_find?_eq_some hp)

theorem count_arena (r : Nat) (f : Metrics → Metrics) :
    ⦃fun w => ⌜s₀.Later w.arena ∧ w.arena.Tidy⌝⦄ count r f ⦃⇓ _ w => ⌜s₀.Later w.arena ∧ w.arena.Tidy⌝⦄ := by
  mvcgen [count, modifyRenderer]
  obtain ⟨later, tidy⟩ := ‹s₀.Later _ ∧ _›
  exact ⟨later.renderer r (fun rd => { rd with metrics := rd.metrics.map f }) (Nat.le_refl _) (fun p hp => ⟨p, hp, rfl⟩),
    tidy.renderer _ r _ id⟩

/-- Changing the live mount points of one number without renumbering them keeps the arena, as long
as every kid they gain is numbered after them. -/
theorem modifyPoint_arena (r id : Nat) (f : MountPoint → MountPoint) (keeps : ∀ p, (f p).id = p.id)
    (kids : ∀ p, p.id = id → ∀ k ∈ (f p).kids, k ∈ p.kids ∨ p.id < k) :
    ⦃fun w => ⌜s₀.Later w.arena ∧ w.arena.Tidy⌝⦄ modifyPoint r id f ⦃⇓ _ w => ⌜s₀.Later w.arena ∧ w.arena.Tidy⌝⦄ := by
  mvcgen [modifyPoint, modifyRenderer]
  obtain ⟨later, tidy⟩ := ‹s₀.Later _ ∧ _›
  refine ⟨later.renderer r (fun rd => { rd with points := rd.points.map (fun p => if p.id == id then f p else p) })
    (Nat.le_refl _) (fun p hp => ?_), tidy.renderer _ r _ (fun a => a.map id f keeps kids)⟩
  obtain ⟨q, hq, rfl⟩ := List.mem_map.1 hp
  refine ⟨q, hq, ?_⟩
  split <;> simp [keeps]

/-- A reserved number comes after the earlier arena's last one, and after every number handed out
when it is reserved, and is vacant. -/
theorem reserve_arena (r : Nat) (owner : Option Nat) :
    ⦃fun w => ⌜(s₀.Later w.arena ∧ w.arena.Tidy) ∧ ∀ k, owner = some k → k ≤ w.arena.next r⌝⦄ reserve r
    ⦃⇓ id w => ⌜(s₀.Later w.arena ∧ w.arena.Tidy) ∧ s₀.next r < id ∧ (∀ k, owner = some k → k < id) ∧
      w.arena.Vacant r id⌝⦄ := by
  mvcgen [reserve, renderer, modifyRenderer]
  obtain ⟨⟨later, tidy⟩, handed⟩ := ‹(s₀.Later _ ∧ _) ∧ _›
  obtain ⟨later', after, vacant⟩ := later.reserve r
  exact ⟨⟨later', tidy.renderer _ r _ id⟩, after, fun k same => Nat.lt_succ_of_le (handed k same), vacant⟩

/-- Dropping mount points keeps some of them, in order. -/
theorem dropPoints_arena (r : Nat) (ids : List Nat) :
    ⦃fun w => ⌜s₀.Later w.arena ∧ w.arena.Tidy⌝⦄ dropPoints r ids ⦃⇓ _ w => ⌜s₀.Later w.arena ∧ w.arena.Tidy⌝⦄ := by
  mvcgen [dropPoints, renderer, modifyRenderer]
  rename_i w _ fuel _
  obtain ⟨later, tidy⟩ := ‹s₀.Later _ ∧ _›
  have kept := dropPoints_sweep_sublist fuel ids (w.renderers.getD r Renderer.default).points 0
  exact ⟨later.renderer r
    (fun rd => { rd with points := (dropPoints.sweep fuel ids (w.renderers.getD r Renderer.default).points 0).1 })
    (Nat.le_refl _) (fun p hp => ⟨p, kept.subset hp, rfl⟩), tidy.renderer _ r _ (fun a => a.sublist kept)⟩

/-- Registering a mount point under a vacant number reserved after its owner's, with no kids yet,
keeps the arena: it is the only one of its number, and its owner's new kid comes after the owner. -/
theorem register_arena (r : Nat) (p : MountPoint) (owner : Option Nat) (after : s₀.next r < p.id)
    (older : ∀ k, owner = some k → k < p.id) (kidless : p.kids = []) :
    ⦃fun w => ⌜(s₀.Later w.arena ∧ w.arena.Tidy) ∧ w.arena.Vacant r p.id⌝⦄ register r p owner
    ⦃⇓ _ w => ⌜s₀.Later w.arena ∧ w.arena.Tidy⌝⦄ := by
  have counted := count_arena s₀ r
  have adopted := fun o (lt : o < p.id) => modifyPoint_arena s₀ r o (fun q => { q with kids := q.kids ++ [p.id] })
    (fun _ => rfl) (fun q same k hk => by
      rcases List.mem_append.1 hk with old | added
      · exact .inl old
      · exact .inr (same ▸ (List.mem_singleton.1 added ▸ lt)))
  mvcgen [register, addPoint, modifyRenderer, counted, adopted]
  case vc1 =>
    obtain ⟨⟨later, tidy⟩, vacant⟩ := ‹(s₀.Later _ ∧ _) ∧ _›
    refine ⟨later.addPoint after vacant.1, tidy.renderer _ r _ (fun a => a.append vacant.2 ?_)⟩
    simp [kidless]
  all_goals grind

/-- Releasing a mount point drops the mount points it owns and empties its kids. -/
theorem release_arena (r id : Nat) :
    ⦃fun w => ⌜s₀.Later w.arena ∧ w.arena.Tidy⌝⦄ release r id ⦃⇓ _ w => ⌜s₀.Later w.arena ∧ w.arena.Tidy⌝⦄ := by
  have dropped := dropPoints_arena s₀ r
  have emptied := modifyPoint_arena s₀ r id (fun p => { p with kids := [] }) (fun _ => rfl)
    (fun _ _ k hk => absurd hk List.not_mem_nil)
  have counted := count_arena s₀ r
  mvcgen [release, point?, renderer, dropped, emptied, counted]

/-- The element a host node goes into changes its mount point's element alone, after releasing
what the mount point owns when the element is cleared. -/
theorem hostElement_arena (r id : Nat) (p : MountPoint) (tag : String) :
    ⦃fun w => ⌜s₀.Later w.arena ∧ w.arena.Tidy⌝⦄ hostElement r id p tag ⦃⇓ _ w => ⌜s₀.Later w.arena ∧ w.arena.Tidy⌝⦄ := by
  have placed := fun el => modifyPoint_arena s₀ r id (fun p => { p with element := some el }) (fun _ => rfl)
    (fun _ _ k hk => .inl hk)
  have released := release_arena s₀ r id
  unfold hostElement
  split
  · mvcgen [attach, createElement, modifyDoc, placed]
  · mvcgen [renderer, clearElement, modifyDoc, released]

/-- Applying props changes the document alone. -/
theorem applyProps_arena (r id el : Nat) (props : List Attr) (first : Bool) :
    ⦃fun w => ⌜s₀.Later w.arena ∧ w.arena.Tidy⌝⦄ applyProps r id el props first
    ⦃post⟨fun _ w => ⌜s₀.Later w.arena ∧ w.arena.Tidy⌝, fun _ w => ⌜s₀.Later w.arena ∧ w.arena.Tidy⌝⟩⦄ := by
  mvcgen [applyProps, applyProp, modifyDoc, fail] invariants
  · post⟨fun _ w => ⌜s₀.Later w.arena ∧ w.arena.Tidy⌝, fun _ w => ⌜s₀.Later w.arena ∧ w.arena.Tidy⌝⟩

/-- Writing attributes as markup changes nothing. -/
theorem attrMarkup_arena (r : Nat) (props : Props) :
    ⦃fun w => ⌜s₀.Later w.arena ∧ w.arena.Tidy⌝⦄ attrMarkup r props ⦃⇓ _ w => ⌜s₀.Later w.arena ∧ w.arena.Tidy⌝⦄ := by
  mvcgen [attrMarkup, textOf, renderer] invariants
  · ⇓ _ w => ⌜s₀.Later w.arena ∧ w.arena.Tidy⌝
  · ⇓ _ w => ⌜s₀.Later w.arena ∧ w.arena.Tidy⌝

/-- Composing capabilities touches no renderer. -/
theorem compose_arena (ps : List Plugin) (t : TriggerTarget) :
    ⦃fun w => ⌜s₀.Later w.arena ∧ w.arena.Tidy⌝⦄ compose ps t ⦃⇓ _ w => ⌜s₀.Later w.arena ∧ w.arena.Tidy⌝⦄ := by
  unfold compose
  mvcgen invariants
  · ⇓ _ w => ⌜s₀.Later w.arena ∧ w.arena.Tidy⌝
  case vc1.step =>
    -- Each plugin adds capabilities to the set it is handed; none touches a renderer.
    cases ‹Plugin› <;> mvcgen [composeOne]

end Primitives

/-- A render function reads states and instances and marks the trace; it never recurses. -/
theorem callRender_arena (s₀ : Scene) (n : Nat) (fn : RenderFn) (props : Props) (children : List Value) :
    ⦃fun w => ⌜s₀.Later w.arena ∧ w.arena.Tidy⌝⦄ callRender n fn props children
    ⦃post⟨fun _ w => ⌜s₀.Later w.arena ∧ w.arena.Tidy⌝, fun _ w => ⌜s₀.Later w.arena ∧ w.arena.Tidy⌝⟩⦄ := by
  rw [callRender.eq_def]
  cases n
  · mvcgen
  · cases fn <;> mvcgen [spend, inst, mark, note, modifyInst, stateRecord]

/-- A step that keeps the arena and never stops keeps it whether it finishes or stops. -/
theorem arena_of_noThrow {α : Type} {m : Run α}
    (h : ∀ s : Scene, ⦃fun w => ⌜s.Later w.arena ∧ w.arena.Tidy⌝⦄ m ⦃⇓ _ w => ⌜s.Later w.arena ∧ w.arena.Tidy⌝⦄)
    (s : Scene) :
    ⦃fun w => ⌜s.Later w.arena ∧ w.arena.Tidy⌝⦄ m
    ⦃post⟨fun _ w => ⌜s.Later w.arena ∧ w.arena.Tidy⌝, fun _ w => ⌜s.Later w.arena ∧ w.arena.Tidy⌝⟩⦄ := by
  intro w hw
  have kept := h s w hw
  simp only [wp, PredTrans.apply] at kept ⊢
  split at kept
  · exact kept
  · exact kept.elim

/-- A computation that keeps the arena later than any it starts later than carries along every
property of arenas that later arenas keep. -/
theorem arena_carry {α : Type} {m : Run α}
    (h : ∀ s : Scene, ⦃fun w => ⌜s.Later w.arena ∧ w.arena.Tidy⌝⦄ m
      ⦃post⟨fun _ w => ⌜s.Later w.arena ∧ w.arena.Tidy⌝, fun _ w => ⌜s.Later w.arena ∧ w.arena.Tidy⌝⟩⦄)
    (s₀ : Scene) (P : Scene → Prop) (stable : ∀ {s s' : Scene}, P s → s.Later s' → P s') :
    ⦃fun w => ⌜(s₀.Later w.arena ∧ w.arena.Tidy) ∧ P w.arena⌝⦄ m
    ⦃post⟨fun _ w => ⌜(s₀.Later w.arena ∧ w.arena.Tidy) ∧ P w.arena⌝,
      fun _ w => ⌜(s₀.Later w.arena ∧ w.arena.Tidy) ∧ P w.arena⌝⟩⦄ := by
  intro w hw
  obtain ⟨⟨later, tidy⟩, holds⟩ := hw
  -- Run from the world's own arena, then chain the result after the earlier arena.
  have kept := h w.arena w ⟨.refl later.numbered, tidy⟩
  simp only [wp, PredTrans.apply] at kept ⊢
  split at kept <;> exact ⟨⟨later.trans kept.1, kept.2⟩, stable holds kept.1⟩

/-- The same, for a computation asking more of the world it starts from. -/
theorem arena_carry_from {α : Type} {m : Run α} {X : World → Prop}
    (h : ∀ s : Scene, ⦃fun w => ⌜(s.Later w.arena ∧ w.arena.Tidy) ∧ X w⌝⦄ m
      ⦃post⟨fun _ w => ⌜s.Later w.arena ∧ w.arena.Tidy⌝, fun _ w => ⌜s.Later w.arena ∧ w.arena.Tidy⌝⟩⦄)
    (s₀ : Scene) (P : Scene → Prop) (stable : ∀ {s s' : Scene}, P s → s.Later s' → P s') :
    ⦃fun w => ⌜((s₀.Later w.arena ∧ w.arena.Tidy) ∧ X w) ∧ P w.arena⌝⦄ m
    ⦃post⟨fun _ w => ⌜(s₀.Later w.arena ∧ w.arena.Tidy) ∧ P w.arena⌝,
      fun _ w => ⌜(s₀.Later w.arena ∧ w.arena.Tidy) ∧ P w.arena⌝⟩⦄ := by
  intro w hw
  obtain ⟨⟨⟨later, tidy⟩, x⟩, holds⟩ := hw
  have kept := h w.arena w ⟨⟨.refl later.numbered, tidy⟩, x⟩
  simp only [wp, PredTrans.apply] at kept ⊢
  split at kept <;> exact ⟨⟨later.trans kept.1, kept.2⟩, stable holds kept.1⟩

/-- Every engine function, at one fuel, keeps the arena later than any earlier arena it starts
later than, and tidy, whether it finishes or stops. A mount, and the mounting of children, ask for
their owner's number to have been handed out. -/
structure ArenaKept (n : Nat) : Prop where
  instantiate : ∀ (s₀ : Scene) c name props caps, ⦃fun w => ⌜s₀.Later w.arena ∧ w.arena.Tidy⌝⦄
    instantiate n c name props caps
    ⦃post⟨fun _ w => ⌜s₀.Later w.arena ∧ w.arena.Tidy⌝, fun _ w => ⌜s₀.Later w.arena ∧ w.arena.Tidy⌝⟩⦄
  renderString : ∀ (s₀ : Scene) r v, ⦃fun w => ⌜s₀.Later w.arena ∧ w.arena.Tidy⌝⦄ renderString n r v
    ⦃post⟨fun _ w => ⌜s₀.Later w.arena ∧ w.arena.Tidy⌝, fun _ w => ⌜s₀.Later w.arena ∧ w.arena.Tidy⌝⟩⦄
  renderAll : ∀ (s₀ : Scene) r vs, ⦃fun w => ⌜s₀.Later w.arena ∧ w.arena.Tidy⌝⦄ renderAll n r vs
    ⦃post⟨fun _ w => ⌜s₀.Later w.arena ∧ w.arena.Tidy⌝, fun _ w => ⌜s₀.Later w.arena ∧ w.arena.Tidy⌝⟩⦄
  mount : ∀ (s₀ : Scene) r v container owner,
    ⦃fun w => ⌜(s₀.Later w.arena ∧ w.arena.Tidy) ∧ ∀ k, owner = some k → k ≤ w.arena.next r⌝⦄
    mount n r v container owner
    ⦃post⟨fun _ w => ⌜s₀.Later w.arena ∧ w.arena.Tidy⌝, fun _ w => ⌜s₀.Later w.arena ∧ w.arena.Tidy⌝⟩⦄
  renderPhase : ∀ (s₀ : Scene) r id first, ⦃fun w => ⌜s₀.Later w.arena ∧ w.arena.Tidy⌝⦄ renderPhase n r id first
    ⦃post⟨fun _ w => ⌜s₀.Later w.arena ∧ w.arena.Tidy⌝, fun _ w => ⌜s₀.Later w.arena ∧ w.arena.Tidy⌝⟩⦄
  mountChildren : ∀ (s₀ : Scene) r cs into owner,
    ⦃fun w => ⌜(s₀.Later w.arena ∧ w.arena.Tidy) ∧ owner ≤ w.arena.next r⌝⦄ mountChildren n r cs into owner
    ⦃post⟨fun _ w => ⌜s₀.Later w.arena ∧ w.arena.Tidy⌝, fun _ w => ⌜s₀.Later w.arena ∧ w.arena.Tidy⌝⟩⦄
  update : ∀ (s₀ : Scene) r id, ⦃fun w => ⌜s₀.Later w.arena ∧ w.arena.Tidy⌝⦄ update n r id
    ⦃post⟨fun _ w => ⌜s₀.Later w.arena ∧ w.arena.Tidy⌝, fun _ w => ⌜s₀.Later w.arena ∧ w.arena.Tidy⌝⟩⦄
  fire : ∀ (s₀ : Scene) target, ⦃fun w => ⌜s₀.Later w.arena ∧ w.arena.Tidy⌝⦄ fire n target
    ⦃post⟨fun _ w => ⌜s₀.Later w.arena ∧ w.arena.Tidy⌝, fun _ w => ⌜s₀.Later w.arena ∧ w.arena.Tidy⌝⟩⦄
  dispatch : ∀ (s₀ : Scene) ev, ⦃fun w => ⌜s₀.Later w.arena ∧ w.arena.Tidy⌝⦄ dispatch n ev
    ⦃post⟨fun _ w => ⌜s₀.Later w.arena ∧ w.arena.Tidy⌝, fun _ w => ⌜s₀.Later w.arena ∧ w.arena.Tidy⌝⟩⦄
  listen : ∀ (s₀ : Scene) l ev, ⦃fun w => ⌜s₀.Later w.arena ∧ w.arena.Tidy⌝⦄ listen n l ev
    ⦃post⟨fun _ w => ⌜s₀.Later w.arena ∧ w.arena.Tidy⌝, fun _ w => ⌜s₀.Later w.arena ∧ w.arena.Tidy⌝⟩⦄
  callHandler : ∀ (s₀ : Scene) h ev, ⦃fun w => ⌜s₀.Later w.arena ∧ w.arena.Tidy⌝⦄ callHandler n h ev
    ⦃post⟨fun _ w => ⌜s₀.Later w.arena ∧ w.arena.Tidy⌝, fun _ w => ⌜s₀.Later w.arena ∧ w.arena.Tidy⌝⟩⦄
  actions : ∀ (s₀ : Scene) owner acts, ⦃fun w => ⌜s₀.Later w.arena ∧ w.arena.Tidy⌝⦄ actions n owner acts
    ⦃post⟨fun _ w => ⌜s₀.Later w.arena ∧ w.arena.Tidy⌝, fun _ w => ⌜s₀.Later w.arena ∧ w.arena.Tidy⌝⟩⦄
  action : ∀ (s₀ : Scene) i act, ⦃fun w => ⌜s₀.Later w.arena ∧ w.arena.Tidy⌝⦄ action n i act
    ⦃post⟨fun _ w => ⌜s₀.Later w.arena ∧ w.arena.Tidy⌝, fun _ w => ⌜s₀.Later w.arena ∧ w.arena.Tidy⌝⟩⦄
  triggerInstance : ∀ (s₀ : Scene) i, ⦃fun w => ⌜s₀.Later w.arena ∧ w.arena.Tidy⌝⦄ triggerInstance n i
    ⦃post⟨fun _ w => ⌜s₀.Later w.arena ∧ w.arena.Tidy⌝, fun _ w => ⌜s₀.Later w.arena ∧ w.arena.Tidy⌝⟩⦄
  checkCap : ∀ (s₀ : Scene) caps name, ⦃fun w => ⌜s₀.Later w.arena ∧ w.arena.Tidy⌝⦄ checkCap n caps name
    ⦃post⟨fun _ w => ⌜s₀.Later w.arena ∧ w.arena.Tidy⌝, fun _ w => ⌜s₀.Later w.arena ∧ w.arena.Tidy⌝⟩⦄
  callEmit : ∀ (s₀ : Scene) f topic data, ⦃fun w => ⌜s₀.Later w.arena ∧ w.arena.Tidy⌝⦄ callEmit n f topic data
    ⦃post⟨fun _ w => ⌜s₀.Later w.arena ∧ w.arena.Tidy⌝, fun _ w => ⌜s₀.Later w.arena ∧ w.arena.Tidy⌝⟩⦄
  emitOnBus : ∀ (s₀ : Scene) topic data, ⦃fun w => ⌜s₀.Later w.arena ∧ w.arena.Tidy⌝⦄ emitOnBus n topic data
    ⦃post⟨fun _ w => ⌜s₀.Later w.arena ∧ w.arena.Tidy⌝, fun _ w => ⌜s₀.Later w.arena ∧ w.arena.Tidy⌝⟩⦄
  deliver : ∀ (s₀ : Scene) s topic data, ⦃fun w => ⌜s₀.Later w.arena ∧ w.arena.Tidy⌝⦄ deliver n s topic data
    ⦃post⟨fun _ w => ⌜s₀.Later w.arena ∧ w.arena.Tidy⌝, fun _ w => ⌜s₀.Later w.arena ∧ w.arena.Tidy⌝⟩⦄
  busActs : ∀ (s₀ : Scene) acts, ⦃fun w => ⌜s₀.Later w.arena ∧ w.arena.Tidy⌝⦄ busActs n acts
    ⦃post⟨fun _ w => ⌜s₀.Later w.arena ∧ w.arena.Tidy⌝, fun _ w => ⌜s₀.Later w.arena ∧ w.arena.Tidy⌝⟩⦄

section Steps

variable {n : Nat} (ih : ArenaKept n) (s₀ : Scene)
include ih

/-- A setup keeps the arena: only a script's actions reach a renderer. -/
theorem instantiate_arena (c : Component) (name : String) (props : Props) (caps : Nat) :
    ⦃fun w => ⌜s₀.Later w.arena ∧ w.arena.Tidy⌝⦄ instantiate (n + 1) c name props caps
    ⦃post⟨fun _ w => ⌜s₀.Later w.arena ∧ w.arena.Tidy⌝, fun _ w => ⌜s₀.Later w.arena ∧ w.arena.Tidy⌝⟩⦄ := by
  rw [instantiate.eq_def]
  dsimp only
  cases c
  case demo d =>
    -- The demo components only call capabilities, none of which reaches a renderer.
    cases d <;> mvcgen [typedCap, capset, capabilityFailed, callState, newState, callLog, note, callOn, mark,
      callTimer, startTimer, callClear, stopTimer]
  case script s =>
    -- A script's setup runs its actions, which may reach the whole engine through emits and triggers.
    have setup := ih.actions s₀
    mvcgen [spend, mark, note, newInstance, typedCap, capset, capabilityFailed, callState, newState,
      modifyInst, setup, fail]

/-- Rendering to markup keeps the arena: it reaches renderers only through setups, render calls and
the rendering of children, each kept by the level below or by its own step lemma. -/
theorem renderString_arena (r : Nat) (v : Value) :
    ⦃fun w => ⌜s₀.Later w.arena ∧ w.arena.Tidy⌝⦄ renderString (n + 1) r v
    ⦃post⟨fun _ w => ⌜s₀.Later w.arena ∧ w.arena.Tidy⌝, fun _ w => ⌜s₀.Later w.arena ∧ w.arena.Tidy⌝⟩⦄ := by
  rw [renderString.eq_def]
  dsimp only
  have read := renderer_arena s₀ r
  have composed := compose_arena s₀
  have setup := ih.instantiate s₀
  have counted := count_arena s₀ r
  have render := callRender_arena s₀ n
  have inner := ih.renderString s₀ r
  have all := ih.renderAll s₀ r
  have attrs := attrMarkup_arena s₀ r
  -- Between those calls only the trace changes, so what is left is the arena carried across.
  mvcgen [textOf, read, composed, setup, counted, render, inner, all, attrs, fail] with grind

/-- Rendering children to markup keeps the arena, one child after another. -/
theorem renderAll_arena (r : Nat) (vs : List Value) :
    ⦃fun w => ⌜s₀.Later w.arena ∧ w.arena.Tidy⌝⦄ renderAll (n + 1) r vs
    ⦃post⟨fun _ w => ⌜s₀.Later w.arena ∧ w.arena.Tidy⌝, fun _ w => ⌜s₀.Later w.arena ∧ w.arena.Tidy⌝⟩⦄ := by
  have first := ih.renderString s₀ r
  have others := ih.renderAll s₀ r
  cases vs <;> rw [renderAll.eq_def] <;> mvcgen [first, others]

/-- A mount keeps the arena when its owner's number has been handed out: the number it reserves
comes after the owner's, and the mount point registered under it is the owner's last kid. -/
theorem mount_arena (r : Nat) (v : Value) (container : Nat) (owner : Option Nat) :
    ⦃fun w => ⌜(s₀.Later w.arena ∧ w.arena.Tidy) ∧ ∀ k, owner = some k → k ≤ w.arena.next r⌝⦄
    mount (n + 1) r v container owner
    ⦃post⟨fun _ w => ⌜s₀.Later w.arena ∧ w.arena.Tidy⌝, fun _ w => ⌜s₀.Later w.arena ∧ w.arena.Tidy⌝⟩⦄ := by
  rw [mount.eq_def]
  dsimp only
  split
  · -- A value that is no node fails before any step.
    mvcgen [fail] with grind
  · split
    · -- A node with no parts fails the same way.
      mvcgen [fail] with grind
    · -- The number reserved for the node comes after its owner's and stays vacant until it is
      -- registered, whatever the setup does.
      have reserved : ⦃fun w => ⌜(s₀.Later w.arena ∧ w.arena.Tidy) ∧ ∀ k, owner = some k → k ≤ w.arena.next r⌝⦄
          reserve r
          ⦃post⟨fun id w => ⌜(s₀.Later w.arena ∧ w.arena.Tidy) ∧
              (s₀.next r < id ∧ (∀ k, owner = some k → k < id) ∧ w.arena.Vacant r id)⌝,
            fun _ w => ⌜s₀.Later w.arena ∧ w.arena.Tidy⌝⟩⦄ := by
        have := reserve_arena s₀ r owner
        mvcgen [this] with grind
      apply Triple.bind _ _ reserved
      intro id
      have stable : ∀ {s s' : Scene}, (s₀.next r < id ∧ (∀ k, owner = some k → k < id) ∧ s.Vacant r id) →
          s.Later s' → (s₀.next r < id ∧ (∀ k, owner = some k → k < id) ∧ s'.Vacant r id) :=
        fun h later => ⟨h.1, h.2.1, later.vacant h.2.2⟩
      have composed := fun ps t => arena_carry (arena_of_noThrow (fun s => compose_arena s ps t)) s₀ _ stable
      have setup := fun c name props caps => arena_carry (fun s => ih.instantiate s c name props caps) s₀ _ stable
      have counted := fun f => arena_carry (arena_of_noThrow (fun s => count_arena s r f)) s₀ _ stable
      have registered := fun p o after older kidless => register_arena s₀ r p o after older kidless
      have phase := ih.renderPhase s₀ r
      mvcgen [renderer, composed, setup, counted, registered, phase, fail]
      -- What is left is the reserved number's facts, carried to the registration.
      all_goals grind

/-- A render phase keeps the arena: its flag changes no number, and what it mounts is owned by it,
whose number stays handed out. -/
theorem renderPhase_arena (r id : Nat) (first : Bool) :
    ⦃fun w => ⌜s₀.Later w.arena ∧ w.arena.Tidy⌝⦄ renderPhase (n + 1) r id first
    ⦃post⟨fun _ w => ⌜s₀.Later w.arena ∧ w.arena.Tidy⌝, fun _ w => ⌜s₀.Later w.arena ∧ w.arena.Tidy⌝⟩⦄ := by
  rw [renderPhase.eq_def]
  dsimp only
  have flagged := modifyPoint_arena s₀ r id (fun p => { p with rendering := true }) (fun _ => rfl)
    (fun _ _ k hk => .inl hk)
  have unflagged := modifyPoint_arena s₀ r id (fun p => { p with rendering := false }) (fun _ => rfl)
    (fun _ _ k hk => .inl hk)
  have found := point?_arena s₀ r id
  -- The mount point was found by its number, so its number stays handed out while its output is
  -- applied, and the mount points it mounts come after it.
  have stable : ∀ {s s' : Scene}, id ≤ s.next r → s.Later s' → id ≤ s'.next r :=
    fun h later => Nat.le_trans h (later.next_le r)
  have render := fun fn props children =>
    arena_carry (fun s => callRender_arena s n fn props children) s₀ _ stable
  have counted := fun f => arena_carry (arena_of_noThrow (fun s => count_arena s r f)) s₀ _ stable
  have host := fun p tag => arena_carry (arena_of_noThrow (fun s => hostElement_arena s r id p tag)) s₀ _ stable
  have props := fun el ps => arena_carry (fun s => applyProps_arena s r id el ps first) s₀ _ stable
  have children := fun cs into => arena_carry_from (fun s => ih.mountChildren s r cs into id) s₀ _ stable
  have inner := fun v container => arena_carry_from (fun s => ih.mount s r v container (some id)) s₀ _ stable
  mvcgen [flagged, unflagged, andFinally, found, render, counted, children, inner, host, props, fail]
  -- What is left is the mount point's number carried to its children, and the flag cleared after a
  -- stop, from the world the stop left.
  all_goals grind [World.restore]

/-- Mounting children keeps the arena, each child owned by the same mount point. -/
theorem mountChildren_arena (r : Nat) (cs : List Value) (into owner : Nat) :
    ⦃fun w => ⌜(s₀.Later w.arena ∧ w.arena.Tidy) ∧ owner ≤ w.arena.next r⌝⦄ mountChildren (n + 1) r cs into owner
    ⦃post⟨fun _ w => ⌜s₀.Later w.arena ∧ w.arena.Tidy⌝, fun _ w => ⌜s₀.Later w.arena ∧ w.arena.Tidy⌝⟩⦄ := by
  -- The owner's number stays handed out while its children mount one after another.
  have stable : ∀ {s s' : Scene}, owner ≤ s.next r → s.Later s' → owner ≤ s'.next r :=
    fun h later => Nat.le_trans h (later.next_le r)
  have inner := fun v => arena_carry_from (fun s => ih.mount s r v into (some owner)) s₀ _ stable
  have others := ih.mountChildren s₀ r
  cases cs <;> rw [mountChildren.eq_def] <;> mvcgen [inner, modifyDoc, others] with grind

/-- A re-render keeps the arena: it is a render phase, its capability failures returned. -/
theorem update_arena (r id : Nat) :
    ⦃fun w => ⌜s₀.Later w.arena ∧ w.arena.Tidy⌝⦄ update (n + 1) r id
    ⦃post⟨fun _ w => ⌜s₀.Later w.arena ∧ w.arena.Tidy⌝, fun _ w => ⌜s₀.Later w.arena ∧ w.arena.Tidy⌝⟩⦄ := by
  rw [update.eq_def]
  dsimp only
  have phase := ih.renderPhase s₀ r id false
  -- A capability failure is turned into a returned one in the world the phase left.
  mvcgen [recover, phase] with grind [World.restore]

/-- Calling a trigger keeps the arena: it re-renders a live mount point or does nothing. -/
theorem fire_arena (target : TriggerTarget) :
    ⦃fun w => ⌜s₀.Later w.arena ∧ w.arena.Tidy⌝⦄ fire (n + 1) target
    ⦃post⟨fun _ w => ⌜s₀.Later w.arena ∧ w.arena.Tidy⌝, fun _ w => ⌜s₀.Later w.arena ∧ w.arena.Tidy⌝⟩⦄ := by
  rw [fire.eq_def]
  dsimp only
  have again := ih.update s₀
  mvcgen [point?, renderer, again]

/-- Dispatching an event keeps the arena. -/
theorem dispatch_arena (ev : Event) :
    ⦃fun w => ⌜s₀.Later w.arena ∧ w.arena.Tidy⌝⦄ dispatch (n + 1) ev
    ⦃post⟨fun _ w => ⌜s₀.Later w.arena ∧ w.arena.Tidy⌝, fun _ w => ⌜s₀.Later w.arena ∧ w.arena.Tidy⌝⟩⦄ := by
  rw [dispatch.eq_def]
  dsimp only
  have each := ih.listen s₀
  -- Listeners run one after another, each from the world the one before left, failed or not.
  mvcgen [attempt, each] invariants
  · post⟨fun _ w => ⌜s₀.Later w.arena ∧ w.arena.Tidy⌝, fun _ w => ⌜s₀.Later w.arena ∧ w.arena.Tidy⌝⟩

/-- Running a listener keeps the arena: a recorder marks the trace, and a mount point's listener
counts the event, calls its handler and re-renders the mount point if it is still there. -/
theorem listen_arena (l : Listener) (ev : Event) :
    ⦃fun w => ⌜s₀.Later w.arena ∧ w.arena.Tidy⌝⦄ listen (n + 1) l ev
    ⦃post⟨fun _ w => ⌜s₀.Later w.arena ∧ w.arena.Tidy⌝, fun _ w => ⌜s₀.Later w.arena ∧ w.arena.Tidy⌝⟩⦄ := by
  rw [listen.eq_def]
  dsimp only
  have counted := count_arena s₀
  have handler := ih.callHandler s₀
  have again := ih.update s₀
  -- A handler's capability failure is returned from the world it left.
  cases l <;> mvcgen [note, fail, recover, counted, handler, point?, renderer, again] with grind [World.restore]

/-- Calling a handler keeps the arena: only a script handler's actions reach a renderer. -/
theorem callHandler_arena (h : Routine) (ev : Option Event) :
    ⦃fun w => ⌜s₀.Later w.arena ∧ w.arena.Tidy⌝⦄ callHandler (n + 1) h ev
    ⦃post⟨fun _ w => ⌜s₀.Later w.arena ∧ w.arena.Tidy⌝, fun _ w => ⌜s₀.Later w.arena ∧ w.arena.Tidy⌝⟩⦄ := by
  rw [callHandler.eq_def]
  dsimp only
  have body := ih.actions s₀
  cases h <;> mvcgen [spend, mark, note, body, stateRecord, setState, typedCap, capset, capabilityFailed, callLog]

/-- Running actions keeps the arena, one action after another. -/
theorem actions_arena (owner : Option Nat) (acts : List Action) :
    ⦃fun w => ⌜s₀.Later w.arena ∧ w.arena.Tidy⌝⦄ actions (n + 1) owner acts
    ⦃post⟨fun _ w => ⌜s₀.Later w.arena ∧ w.arena.Tidy⌝, fun _ w => ⌜s₀.Later w.arena ∧ w.arena.Tidy⌝⟩⦄ := by
  have first := ih.action s₀
  have others := ih.actions s₀
  cases acts <;> rw [actions.eq_def] <;> mvcgen [spend, mark, note, first, others]

/-- An action keeps the arena: only emits, triggers and capability checks reach a renderer, through
the level below. -/
theorem action_arena (i : Nat) (act : Action) :
    ⦃fun w => ⌜s₀.Later w.arena ∧ w.arena.Tidy⌝⦄ action (n + 1) i act
    ⦃post⟨fun _ w => ⌜s₀.Later w.arena ∧ w.arena.Tidy⌝, fun _ w => ⌜s₀.Later w.arena ∧ w.arena.Tidy⌝⟩⦄ := by
  rw [action.eq_def]
  dsimp only
  have emitted := ih.callEmit s₀
  have trigger := ih.triggerInstance s₀
  have check := ih.checkCap s₀
  cases act <;> mvcgen [inst, actionContext, stateRecord, setState, mark, note, typedCap, capset, capabilityFailed,
    callLog, emitted, callOn, modifyInst, dispose, trigger, check]

/-- An instance's trigger keeps the arena, as the trigger it calls does. -/
theorem triggerInstance_arena (i : Nat) :
    ⦃fun w => ⌜s₀.Later w.arena ∧ w.arena.Tidy⌝⦄ triggerInstance (n + 1) i
    ⦃post⟨fun _ w => ⌜s₀.Later w.arena ∧ w.arena.Tidy⌝, fun _ w => ⌜s₀.Later w.arena ∧ w.arena.Tidy⌝⟩⦄ := by
  rw [triggerInstance.eq_def]
  dsimp only
  have again := ih.fire s₀
  mvcgen [inst, capset, mark, note, attempt, again]

/-- Exercising a capability keeps the arena: only the emit capability reaches a renderer. -/
theorem checkCap_arena (caps : Nat) (name : String) :
    ⦃fun w => ⌜s₀.Later w.arena ∧ w.arena.Tidy⌝⦄ checkCap (n + 1) caps name
    ⦃post⟨fun _ w => ⌜s₀.Later w.arena ∧ w.arena.Tidy⌝, fun _ w => ⌜s₀.Later w.arena ∧ w.arena.Tidy⌝⟩⦄ := by
  rw [checkCap.eq_def]
  dsimp only
  have emitted := ih.callEmit s₀
  split <;> mvcgen [typedCap, capset, capabilityFailed, mark, note, callState, newState, stateRecord, callLog,
    callTimer, startTimer, callClear, stopTimer, emitted, callOn, dispose]

/-- Calling an emit function keeps the arena, as the emit on the bus does. -/
theorem callEmit_arena (f : Value) (topic : String) (data : Value) :
    ⦃fun w => ⌜s₀.Later w.arena ∧ w.arena.Tidy⌝⦄ callEmit (n + 1) f topic data
    ⦃post⟨fun _ w => ⌜s₀.Later w.arena ∧ w.arena.Tidy⌝, fun _ w => ⌜s₀.Later w.arena ∧ w.arena.Tidy⌝⟩⦄ := by
  rw [callEmit.eq_def]
  dsimp only
  have bus := ih.emitOnBus s₀
  mvcgen [bus, note]

/-- Emitting on the bus keeps the arena, one subscriber after another. -/
theorem emitOnBus_arena (topic : String) (data : Value) :
    ⦃fun w => ⌜s₀.Later w.arena ∧ w.arena.Tidy⌝⦄ emitOnBus (n + 1) topic data
    ⦃post⟨fun _ w => ⌜s₀.Later w.arena ∧ w.arena.Tidy⌝, fun _ w => ⌜s₀.Later w.arena ∧ w.arena.Tidy⌝⟩⦄ := by
  rw [emitOnBus.eq_def]
  dsimp only
  have each := ih.deliver s₀
  mvcgen [spend, each] invariants
  · post⟨fun _ w => ⌜s₀.Later w.arena ∧ w.arena.Tidy⌝, fun _ w => ⌜s₀.Later w.arena ∧ w.arena.Tidy⌝⟩

/-- Delivering to a subscriber keeps the arena: a recording subscriber runs its bus steps, and an
instance's subscription may call its trigger. -/
theorem deliver_arena (s : Subscriber) (topic : String) (data : Value) :
    ⦃fun w => ⌜s₀.Later w.arena ∧ w.arena.Tidy⌝⦄ deliver (n + 1) s topic data
    ⦃post⟨fun _ w => ⌜s₀.Later w.arena ∧ w.arena.Tidy⌝, fun _ w => ⌜s₀.Later w.arena ∧ w.arena.Tidy⌝⟩⦄ := by
  rw [deliver.eq_def]
  dsimp only
  have steps := ih.busActs s₀
  have trigger := ih.triggerInstance s₀
  cases s <;> mvcgen [note, steps, setState, inst, trigger]

/-- A subscriber's bus steps keep the arena, one after another. -/
theorem busActs_arena (acts : List BusAct) :
    ⦃fun w => ⌜s₀.Later w.arena ∧ w.arena.Tidy⌝⦄ busActs (n + 1) acts
    ⦃post⟨fun _ w => ⌜s₀.Later w.arena ∧ w.arena.Tidy⌝, fun _ w => ⌜s₀.Later w.arena ∧ w.arena.Tidy⌝⟩⦄ := by
  have bus := ih.emitOnBus s₀
  have others := ih.busActs s₀
  cases acts <;> rw [busActs.eq_def] <;> mvcgen [dispose, callOn, mark, note, bus, others]

end Steps

/-- Out of fuel, every engine function stops at once. -/
theorem ArenaKept.zero : ArenaKept 0 where
  instantiate _ _ _ _ _ := by rw [instantiate.eq_def]; mvcgen
  renderString _ _ _ := by rw [renderString.eq_def]; mvcgen
  renderAll _ _ _ := by rw [renderAll.eq_def]; mvcgen
  mount _ _ _ _ _ := by rw [mount.eq_def]; mvcgen with grind
  renderPhase _ _ _ _ := by rw [renderPhase.eq_def]; mvcgen
  mountChildren _ _ _ _ _ := by rw [mountChildren.eq_def]; mvcgen with grind
  update _ _ _ := by rw [update.eq_def]; mvcgen
  fire _ _ := by rw [fire.eq_def]; mvcgen
  dispatch _ _ := by rw [dispatch.eq_def]; mvcgen
  listen _ _ _ := by rw [listen.eq_def]; mvcgen
  callHandler _ _ _ := by rw [callHandler.eq_def]; mvcgen
  actions _ _ _ := by rw [actions.eq_def]; mvcgen
  action _ _ _ := by rw [action.eq_def]; mvcgen
  triggerInstance _ _ := by rw [triggerInstance.eq_def]; mvcgen
  checkCap _ _ _ := by rw [checkCap.eq_def]; mvcgen
  callEmit _ _ _ _ := by rw [callEmit.eq_def]; mvcgen
  emitOnBus _ _ _ := by rw [emitOnBus.eq_def]; mvcgen
  deliver _ _ _ _ := by rw [deliver.eq_def]; mvcgen
  busActs _ _ := by rw [busActs.eq_def]; mvcgen

theorem ArenaKept.succ {n : Nat} (ih : ArenaKept n) : ArenaKept (n + 1) :=
  ⟨instantiate_arena ih, renderString_arena ih, renderAll_arena ih, mount_arena ih, renderPhase_arena ih,
    mountChildren_arena ih, update_arena ih, fire_arena ih, dispatch_arena ih, listen_arena ih,
    callHandler_arena ih, actions_arena ih, action_arena ih, triggerInstance_arena ih, checkCap_arena ih,
    callEmit_arena ih, emitOnBus_arena ih, deliver_arena ih, busActs_arena ih⟩

/-- At every fuel, every engine function keeps the arena later and tidy. -/
theorem arenaKept : ∀ n, ArenaKept n
  | 0 => .zero
  | n + 1 => (arenaKept n).succ

/-- A call of a host program keeps the arena later and tidy, whether it finishes or stops. A mount
at the top has no owner. -/
theorem call_arena (r : Nat) (s₀ : Scene) (c : Call) :
    ⦃fun w => ⌜s₀.Later w.arena ∧ w.arena.Tidy⌝⦄ c.run r
    ⦃post⟨fun _ w => ⌜s₀.Later w.arena ∧ w.arena.Tidy⌝, fun _ w => ⌜s₀.Later w.arena ∧ w.arena.Tidy⌝⟩⦄ := by
  have kept := arenaKept depthAllowance
  cases c
  case dispatch target type detail =>
    have events := kept.dispatch s₀
    mvcgen [Call.run, dispatchOn, events]
  case emit topic data =>
    have bus := kept.emitOnBus s₀
    mvcgen [Call.run, emit, bus]
  case trigger target =>
    have again := kept.fire s₀
    mvcgen [Call.run, fireTrigger, attempt, again]
  case mount v container =>
    have mounted := (arenaKept mountAllowance).mount s₀ r v container none
    mvcgen [Call.run, mountInto, attempt, recover, mounted] with grind

/-- Calls, each from where the one before stopped, leave a tidy arena later than the one they
started from. -/
theorem runAll_arena (r : Nat) (calls : List Call) {w : World} (numbered : w.arena.Numbered) (tidy : w.arena.Tidy) :
    w.arena.Later (Call.runAll r calls w).arena ∧ (Call.runAll r calls w).arena.Tidy := by
  induction calls generalizing w with
  | nil => exact ⟨.refl numbered, tidy⟩
  | cons c rest ih =>
    -- The first call leaves a later, tidy arena, and the rest start from it.
    have first : w.arena.Later ((c.run r).leaves w).arena ∧ ((c.run r).leaves w).arena.Tidy :=
      leaves_of_triple (P := fun w' => w.arena.Later w'.arena ∧ w'.arena.Tidy) (call_arena r w.arena c)
        ⟨.refl numbered, tidy⟩
    obtain ⟨later, tidy'⟩ := ih first.1.numbered first.2
    exact ⟨first.1.trans later, tidy'⟩

/-- Dropping mount points. For every world and renderer whose mount points have distinct numbers,
and every list of ids, repeated and absent ones included: dropping the ids keeps exactly the mount
points not reached from them through the kids lists of mount points present, in their order, and
returns how many it took out. Every world a host program reaches, by any calls, from one whose
mount points are numbered and form arenas is such a world: in each renderer the numbers are
distinct and every kid is numbered after its owner, so no mount point reaches itself through
kids. -/
theorem drop_takes_out_reached (r : Nat) (calls : List Call) {w : World} (numbered : w.arena.Numbered)
    (tidy : w.arena.Tidy) :
    (∀ (v : World) (r' : Nat) (ids : List Nat), ((v.points r').map (·.id)).Nodup →
      ∃ kept removed, (dropPoints r' ids).run v =
          .ok removed { v with renderers := v.renderers.modify r' (fun rd => { rd with points := kept }) } ∧
        (∀ q, q ∈ kept ↔ q ∈ v.points r' ∧ ¬ Reached (v.points r') ids q.id) ∧
        kept.Sublist (v.points r') ∧ removed + kept.length = (v.points r').length) ∧
    ∀ r', Arena ((Call.runAll r calls w).points r') ∧
      ∀ i, ¬ Relation.TransGen (Kid ((Call.runAll r calls w).points r')) i i := by
  refine ⟨fun v r' ids distinct => dropPoints_spec r' ids v distinct, fun r' => ?_⟩
  -- The calls leave a tidy arena, whose kids relation is acyclic renderer by renderer.
  have arena : Arena ((Call.runAll r calls w).points r') := (runAll_arena r calls numbered tidy).2 r'
  exact ⟨arena, arena.acyclic⟩

/-- A component `T` rendering a `div` that holds a component `U`, which renders a `div` holding a
`span`, mounted into a body by a renderer that clears on update, then re-rendered by its trigger. The
mount makes mount points 1, 2 and 3, each the kid of the one before; the cleared re-render drops 2,
and with it 3, reached through the kids of 2, and mounts 4 and 5 in their place. The world starts
with no mount points, and afterwards no mount point reaches itself through kids. -/
theorem nested_rerender_drops_kids_acyclic :
    let T : Script := ⟨"T", .component, false, .none, [],
      [.list false [.value (.str "div"), .list false [.value (.component (.script 1) .component)]]]⟩
    let U : Script := ⟨"U", .component, false, .none, [],
      [.list false [.value (.str "div"), .list false [.value (.str "span")]]]⟩
    let w : World := { World.fresh ⟨#[T, U], #[], PropsDecoder.zero⟩
        #[{ Renderer.default with plugins := [.trigger], clearOnUpdate := true }] with
      doc := (Host.Document.empty.create "body").1 }
    let mounted := [Call.mount (.list [.component (.script 0) .component]) 0]
    let calls := mounted ++ [Call.trigger (.mountPoint 0 1)]
    w.arena.Numbered ∧ w.arena.Tidy ∧
      ((Call.runAll 0 mounted w).points 0).map (fun p => (p.id, p.kids)) = [(1, [2]), (2, [3]), (3, [])] ∧
      ((Call.runAll 0 calls w).points 0).map (fun p => (p.id, p.kids)) = [(1, [4]), (4, [5]), (5, [])] ∧
      ∀ r' i, ¬ Relation.TransGen (Kid ((Call.runAll 0 calls w).points r')) i i := by
  intro T U w mounted calls
  -- The renderer has no mount points yet.
  have empty : ∀ r', w.arena.points r' = [] := by
    intro r'
    cases r' <;> simp [w, World.fresh, World.arena, Scene.points, Renderer.default]
  have numbered : w.arena.Numbered := fun r' p hp => by simp [empty r'] at hp
  have tidy : w.arena.Tidy := fun r' => (empty r') ▸ Arena.nil
  -- Running the calls shows the chain of kids the mount made and the one the re-render made.
  have first : ((Call.runAll 0 mounted w).points 0).map (fun p => (p.id, p.kids)) = [(1, [2]), (2, [3]), (3, [])] := by
    dsimp only [mounted, w, T, U]
    decide +kernel
  have again : ((Call.runAll 0 calls w).points 0).map (fun p => (p.id, p.kids)) = [(1, [4]), (4, [5]), (5, [])] := by
    dsimp only [calls, mounted, w, T, U]
    decide +kernel
  exact ⟨numbered, tidy, first, again, fun r' => ((drop_takes_out_reached 0 calls numbered tidy).2 r').2⟩

end Run

end ViewEngine
