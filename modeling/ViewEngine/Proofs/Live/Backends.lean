import Mathlib
import ViewEngine.Proofs.Live.Clean

/-! The two backends agree on clean content. A mount is run beside the string backend's walk over
the same value, from twin worlds: both run the program with the same core (state records,
instances, trace and step budget), as many capability sets and the same options. Each step a mount
takes alone keeps the worlds twins, and so does each setup and render call, run on both sides from
twins. Mounting clean content then follows the walk (`agrees`): where the walk gives a forest, the
mount appends to its container children that write that forest, and where the walk stops other
than by running out, the mount stops with the same stop. The mount needs about twice the depth
the walk needs, as a render phase sits between a node and its children, and is given that much. At
the entry points, whenever an escaping renderer renders clean content to markup, a mount of it into
an empty element returns too, leaving that markup there, or both fail alike
(`mount_agrees_with_renderToString`). -/

namespace ViewEngine

open Host Markup

@[simp] theorem World.scene_graft (w : World) (c : World.Core) : (w.graft c).scene = w.scene := rfl

/-- Counting keeps a scene later. -/
theorem Scene.Later.count {s₀ : Scene} {w : World} (later : s₀.Later w.scene) (r : Nat) (f : Metrics → Metrics) :
    s₀.Later ((Run.count r f).leaves w).scene :=
  Run.ok_of_noThrow (Run.count_later s₀ r f) later (Run.count_run r f w)

/-! ## Twin worlds -/

/-- A step of the mount alone: the document and the renderers change, and no option. -/
structure World.Restaged (w w' : World) : Prop where
  rest : w' = { w with doc := w'.doc, renderers := w'.renderers }
  options : w'.options = w.options

namespace World.Restaged

theorem refl (w : World) : w.Restaged w := ⟨rfl, rfl⟩

theorem trans {w₁ w₂ w₃ : World} (h₁ : w₁.Restaged w₂) (h₂ : w₂.Restaged w₃) : w₁.Restaged w₃ := by
  refine ⟨?_, h₂.options.trans h₁.options⟩
  rw [h₂.rest, h₁.rest]

theorem doc (w : World) (d : Document Listener) : w.Restaged { w with doc := d } := ⟨rfl, rfl⟩

theorem renderers {w : World} {rs : Array Renderer} (options : ({ w with renderers := rs } : World).options = w.options) :
    w.Restaged { w with renderers := rs } := ⟨rfl, options⟩

theorem modifyPoint (r id : Nat) (f : MountPoint → MountPoint) (w : World) :
    w.Restaged ((Run.modifyPoint r id f).leaves w) :=
  renderers (Run.options_leaves_modifyPoint r id f w)

theorem count (r : Nat) (f : Metrics → Metrics) (w : World) : w.Restaged ((Run.count r f).leaves w) :=
  renderers (Run.options_leaves_count r f w)

theorem reserve (r : Nat) (w : World) :
    w.Restaged { w with renderers := w.renderers.modify r (fun rd => { rd with next := rd.next + 1 }) } :=
  renderers (World.options_modify w r _ (fun _ => rfl))

theorem register (r : Nat) (p : MountPoint) (owner : Option Nat) (w : World) :
    w.Restaged ((Run.register r p owner).leaves w) := by
  have added : w.Restaged { w with renderers := w.renderers.modify r (fun rd => { rd with points := rd.points ++ [p] }) } :=
    renderers (World.options_modify w r _ (fun _ => rfl))
  have counted := added.trans (count r (fun m => { m with mountPoints := m.mountPoints + 1 }) _)
  -- The owner, if any, lists the new mount point among its kids.
  cases owner with
  | none => exact counted
  | some o => exact counted.trans (modifyPoint r o _ _)

end World.Restaged

/-- Two worlds a mount and a rendering to markup run from side by side: both run the program, with
the same core, as many capability sets and the same options. -/
structure Twin (prog : Program) (wm ws : World) : Prop where
  mounting : wm.program = prog
  rendering : ws.program = prog
  core : wm.core = ws.core
  capsets : wm.capsets.size = ws.capsets.size
  options : wm.options = ws.options

namespace Twin

variable {prog : Program} {wm ws wm' ws' : World}

theorem refl {w : World} (h : w.program = prog) : Twin prog w w := ⟨h, h, rfl, rfl, rfl⟩

/-- A step of the mount alone keeps the worlds twins. -/
theorem left (h : Twin prog wm ws) (step : wm.Restaged wm') : Twin prog wm' ws := by
  obtain ⟨rest, options⟩ := step
  refine ⟨?_, h.rendering, ?_, ?_, options.trans h.options⟩
  all_goals rw [rest]
  exacts [h.mounting, h.core, h.capsets]

/-- A step of the string backend alone that changes only the renderers keeps the worlds twins. -/
theorem right (h : Twin prog wm ws) (step : ws.Restaged ws') : Twin prog wm ws' := by
  obtain ⟨rest, options⟩ := step
  refine ⟨h.mounting, ?_, ?_, ?_, h.options.trans options.symm⟩
  all_goals rw [rest]
  exacts [h.rendering, h.core, h.capsets]

/-- Composing the capabilities of the same plugins on both sides keeps the worlds twins, whatever
re-render trigger each side hands them. -/
theorem compose (h : Twin prog wm ws) (tm ts : TriggerTarget) (ps : List Plugin) (cm cs : CapSet) :
    Twin prog { wm.afterPlugins tm ps with capsets := wm.capsets.push cm }
      { ws.afterPlugins ts ps with capsets := ws.capsets.push cs } :=
  ⟨h.mounting, h.rendering, h.core, by simp [h.capsets], h.options⟩

/-- Steps confined to the core, the mount's extending the string backend's, finish alike from twin
worlds, which stay twins, or stop alike unless the string backend's runs out. -/
theorem confined {α : Type} {x y : Run α} (hx : Run.Confined prog x) (hy : Run.Confined prog y)
    (ext : Run.Extends x y) (h : Twin prog wm ws) :
    (∀ a ws', x.run ws = .ok a ws' → y.run wm = .ok a (wm.graft ws'.core) ∧ Twin prog (wm.graft ws'.core) ws') ∧
    (∀ e ws', x.run ws = .error e ws' → e = .exhausted ∨ y.run wm = .error e (wm.graft ws'.core)) := by
  constructor
  · intro a ws' run
    have same := hy.of_extends ext h.mounting h.rendering h.core (fun w' stop => by rw [run] at stop; cases stop)
    rw [run, Run.onto_ok] at same
    -- The string backend's step kept everything but the core, the program included.
    have kept := hx.self h.rendering
    rw [run, Run.onto_ok, EStateM.Result.ok.injEq] at kept
    refine ⟨same, ⟨h.mounting, hx.program_of_ok h.rendering run, rfl, ?_, ?_⟩⟩
    · rw [kept.2]
      exact h.capsets
    · rw [kept.2]
      exact h.options
  · intro e ws' run
    by_cases out : e = .exhausted
    · exact .inl out
    · refine .inr ?_
      have same := hy.of_extends ext h.mounting h.rendering h.core (fun w' stop => by
        rw [run] at stop
        cases stop
        exact out rfl)
      rw [same, run, Run.onto_error]

end Twin

/-- A mount into an element beside the string backend's walk from a twin world: when the walk gives
a forest, the mount finishes in a twin world, having appended to the element children that write
that forest; when the walk stops other than by running out, the mount stops alike. -/
structure Follows (prog : Program) (into : Nat) (wm : World) (walk : EStateM.Result Abort World (List Node))
    (mounted : EStateM.Result Abort World Unit) : Prop where
  finished : ∀ ms ws', walk = .ok ms ws' →
    ∃ wm', mounted = .ok () wm' ∧ Twin prog wm' ws' ∧ wm.doc.Appends wm'.doc into ms
  stopped : ∀ e ws', walk = .error e ws' → e = .exhausted ∨ ∃ wm', mounted = .error e wm'

namespace Follows

variable {prog : Program} {into : Nat} {wm : World}

/-- A walk that ran out asks nothing of the mount. -/
theorem exhausted (ws' : World) (mounted : EStateM.Result Abort World Unit) :
    Follows prog into wm (.error .exhausted ws') mounted where
  finished _ _ walk := by cases walk
  stopped _ _ walk := by
    cases walk
    exact .inl rfl

/-- A mount that stops as the walk stops follows it. -/
theorem error {e : Abort} {ws' wm' : World} : Follows prog into wm (.error e ws') (.error e wm') where
  finished _ _ walk := by cases walk
  stopped _ _ walk := by
    cases walk
    exact .inr ⟨_, rfl⟩

end Follows


namespace Follows

variable {prog : Program} {into : Nat} {wm ws : World}

/-- What a mount follows depends on the document it starts from alone. -/
theorem of_doc {wm₁ : World} {walk : EStateM.Result Abort World (List Node)} {mounted : EStateM.Result Abort World Unit}
    (same : wm₁.doc = wm.doc) (h : Follows prog into wm₁ walk mounted) : Follows prog into wm walk mounted where
  finished ms ws' run := by
    obtain ⟨wm', done, twin, appends⟩ := h.finished ms ws' run
    exact ⟨wm', done, twin, same ▸ appends⟩
  stopped := h.stopped

/-- A setup or render call on both sides, the mount's extending the walk's, then followed from
where they finished. -/
theorem bind {α : Type} {x y : Run α} {f : α → Run (List Node)} {g : α → Run Unit}
    (hx : Run.Confined prog x) (hy : Run.Confined prog y) (ext : Run.Extends x y) (twin : Twin prog wm ws)
    (next : ∀ a ws₁, x.run ws = .ok a ws₁ → Twin prog (wm.graft ws₁.core) ws₁ →
      Follows prog into wm ((f a).run ws₁) ((g a).run (wm.graft ws₁.core))) :
    Follows prog into wm ((x >>= f).run ws) ((y >>= g).run wm) := by
  obtain ⟨finished, stopped⟩ := twin.confined hx hy ext
  rw [Run.bind_run, Run.bind_run]
  cases hs : x.run ws with
  | ok a ws₁ =>
    obtain ⟨same, twin₁⟩ := finished a ws₁ hs
    rw [same]
    exact next a ws₁ hs twin₁
  | error e ws₁ =>
    rcases stopped e ws₁ hs with rfl | same
    · exact .exhausted _ _
    · rw [same]
      exact .error

/-- Values one after another: the mount of the first follows its walk, and from where both
finished the mount of the rest follows the walk of the rest; the forests are joined. -/
theorem seq {x f : Run (List Node)} {y g : Run Unit} (inside : into < wm.doc.elements.size)
    (first : Follows prog into wm (x.run ws) (y.run wm))
    (rest : ∀ ms ws₁ wm₁, x.run ws = .ok ms ws₁ → y.run wm = .ok () wm₁ → Twin prog wm₁ ws₁ →
      Follows prog into wm₁ (f.run ws₁) (g.run wm₁)) :
    Follows prog into wm ((x >>= fun ms => f >>= fun ms' => pure (ms ++ ms')).run ws) ((y >>= fun _ => g).run wm) := by
  rw [Run.bind_run, Run.bind_run]
  cases hx : x.run ws with
  | ok ms ws₁ =>
    obtain ⟨wm₁, hy, twin₁, appends₁⟩ := first.finished ms ws₁ hx
    have second := rest ms ws₁ wm₁ hx hy twin₁
    rw [hy]
    dsimp only
    rw [Run.bind_run]
    constructor
    · intro all ws₂ run
      cases hf : f.run ws₁ with
      | ok ms' ws₃ =>
        rw [hf] at run
        cases run
        obtain ⟨wm₂, hg, twin₂, appends₂⟩ := second.finished _ _ hf
        exact ⟨wm₂, hg, twin₂, appends₁.trans inside appends₂⟩
      | error e ws₃ =>
        rw [hf] at run
        cases run
    · intro e ws₂ run
      cases hf : f.run ws₁ with
      | ok ms' ws₃ =>
        rw [hf] at run
        cases run
      | error e' ws₃ =>
        rw [hf] at run
        cases run
        exact second.stopped _ _ hf
  | error e ws₁ =>
    constructor
    · intro _ _ run
      cases run
    · intro e' ws' run
      cases run
      rcases first.stopped e ws₁ hx with out | ⟨wm₁, hy⟩
      · exact .inl out
      · rw [hy]
        exact .inr ⟨wm₁, rfl⟩

/-- A value that is no node: the walk writes its text, which the mount appends. -/
theorem text {c : Value} (notNode : c.asNode? = none) (n r : Nat) (twin : Twin prog wm ws) :
    Follows prog into wm ((Run.renderTree n r c).run ws) ((Run.modifyDoc (fun d => d.appendText into c.text)).run wm) := by
  cases n with
  | zero =>
    rw [Run.renderTree]
    exact .exhausted _ _
  | succ n =>
    rw [Run.renderTree_text_eq notNode, Run.modifyDoc_run]
    constructor
    · intro ms ws' run
      cases run
      exact ⟨_, rfl, twin.left (.doc wm _), Document.Appends.text wm.doc into c.text⟩
    · intro e ws' run
      cases run

/-- An element made last in the container with its attributes, then filled by a mount that follows
the walk over its children: the whole follows the walk that wraps those children in the element. -/
theorem element {wm₁ : World} {tag : String} {attrs : Dict String} {forest : Run (List Node)} {inner : Run Unit}
    (inside : into < wm.doc.elements.size)
    (made : wm₁.doc = attrs.foldl (fun d a => d.setAttribute wm.doc.elements.size a.1 a.2)
      ((wm.doc.create tag).1.appendChild into wm.doc.elements.size))
    (plain : ∀ a ∈ attrs, a.1 ≠ "class") (sorted : Dict.Sorted attrs)
    (h : Follows prog wm.doc.elements.size wm₁ (forest.run ws) (inner.run wm₁)) :
    Follows prog into wm ((forest >>= fun gs => pure [.element tag attrs gs]).run ws) (inner.run wm₁) := by
  rw [Run.bind_run]
  constructor
  · intro ms ws' run
    cases hf : forest.run ws with
    | ok gs ws₁ =>
      rw [hf] at run
      cases run
      obtain ⟨wm', done, twin', appends⟩ := h.finished _ _ hf
      exact ⟨wm', done, twin', Document.Appends.created inside plain sorted (made ▸ appends)⟩
    | error e ws₁ =>
      rw [hf] at run
      cases run
  · intro e ws' run
    cases hf : forest.run ws with
    | ok gs ws₁ =>
      rw [hf] at run
      cases run
    | error e' ws₁ =>
      rw [hf] at run
      cases run
      exact h.stopped _ _ hf

/-- Clearing a mount point's flag after its render phase changes neither the document nor what the
worlds share. -/
theorem unflag {r id : Nat} {body : Run Unit} {wm₁ : World} {walk : EStateM.Result Abort World (List Node)}
    (h : Follows prog into wm walk (body.run wm₁)) :
    Follows prog into wm walk
      ((Run.andFinally body (Run.modifyPoint r id (fun q => { q with rendering := false }))).run wm₁) := by
  rw [Run.andFinally_run _ (Run.modifyPoint_run r id _)]
  constructor
  · intro ms ws' run
    obtain ⟨wm', done, twin', appends⟩ := h.finished ms ws' run
    rw [done]
    exact ⟨_, rfl, twin'.left (.modifyPoint r id _ wm'), by simpa using appends⟩
  · intro e ws' run
    rcases h.stopped e ws' run with out | ⟨wm', done⟩
    · exact .inl out
    · rw [done]
      exact .inr ⟨_, rfl⟩

end Follows


/-! ## Agreement at every depth -/

namespace Run

/-- At depth `n` of the walk, the mount of clean content follows the walk from twin worlds ready for
it, given about twice the depth: placing a render output that is a host node or a fragment, mounting
a node, and mounting children. -/
structure Agrees (prog : Program) (n : Nat) : Prop where
  place : ∀ r id (p : MountPoint) (expr : Value) (parts : Parts) (s : String) m (wm ws : World),
    expr.asNode?.bind split = some parts → parts.tag = .str s → parts.props.Plain →
    (∀ c ∈ parts.children, c.asNode?.isSome → Clean prog c) → p.element = none →
    Twin prog wm ws → Ready r p.container wm → 2 * n ≤ m + 1 →
    Follows prog p.container wm ((Run.renderTree n r expr).run ws) ((Run.placeOutput m r id p true expr).run wm)
  mount : ∀ r (v : Value) into (owner : Option Nat) m (wm ws : World), Clean prog v →
    Twin prog wm ws → Ready r into wm → 2 * n + 1 ≤ m →
    Follows prog into wm ((Run.renderTree n r v).run ws) ((Run.mount m r v into owner).run wm)
  mountChildren : ∀ r (cs : List Value) into owner m (wm ws : World),
    (∀ c ∈ cs, c.asNode?.isSome → Clean prog c) → Twin prog wm ws → Ready r into wm → 2 * n + 1 ≤ m →
    Follows prog into wm ((Run.renderForest n r cs).run ws) ((Run.mountChildren m r cs into owner).run wm)

/-- An engine function that extends itself one level up extends itself at every larger depth. -/
theorem Extends.of_le {α : Type} {f : Nat → Run α} (step : ∀ k, Extends (f k) (f (k + 1))) {m k : Nat}
    (le : m ≤ k) : Extends (f m) (f k) := by
  induction k, le using Nat.le_induction with
  | base => rfl
  | succ k _ below => exact below.trans (step k)

/-- At no depth the walk runs out at once, and asks nothing of the mount. -/
theorem Agrees.zero (prog : Program) : Agrees prog 0 where
  place _ _ _ _ _ _ _ _ _ _ _ _ _ _ _ _ _ := by
    rw [renderTree]
    exact .exhausted _ _
  mount _ _ _ _ _ _ _ _ _ _ _ := by
    rw [renderTree]
    exact .exhausted _ _
  mountChildren _ _ _ _ _ _ _ _ _ _ _ := by
    rw [renderForest]
    exact .exhausted _ _

/-- The parts of a host node's rebuild are its own. -/
private theorem parts_rebuilt {s : String} {parts : Parts} (ht : parts.tag = .str s) (plain : parts.Plain) :
    (Value.node (hostItems s parts.props parts.children)).asNode?.bind split = some parts := by
  rw [Value.asNode?, Option.bind_some, split_hostItems_of_plain plain]
  cases parts
  cases ht
  rfl

/-- Registering a mount point under a vacant number, numbered after an earlier scene, then running
its first render phase: the phase is followed from the registered world, where the mount point is
found by its number, kept, and has no element. -/
theorem register_follows {prog : Program} {r : Nat} {K : MountPoint} {owner : Option Nat} {phase : Run Unit}
    {s₀ : Scene} {walk : EStateM.Result Abort World (List Node)} {wm ws : World}
    (later : s₀.Later wm.scene) (after : s₀.next r < K.id) (vacant : wm.scene.Vacant r K.id) (elt : K.element = none)
    (present : r < wm.renderers.size) (twin : Twin prog wm ws)
    (next : ∀ q wm₁, (wm₁.scene.points r).find? (·.id == K.id) = some q → K.Kept q → q.element = none →
      s₀.Later wm₁.scene → Twin prog wm₁ ws → Follows prog K.container wm₁ walk (phase.run wm₁)) :
    Follows prog K.container wm walk ((register r K owner >>= fun _ => phase).run wm) := by
  have registered := register_run_leaves r K owner wm
  obtain ⟨later₁, awaits⟩ := ok_of_noThrow (register_later s₀ r K owner after elt) ⟨later, vacant⟩ registered
  obtain ⟨-, q, found, kept⟩ := register_grows present vacant.2 registered
  have pid : q.id = K.id := by simpa using List.find?_some found
  rw [bind_run, registered]
  exact (next q _ found kept (awaits.2 q (List.mem_of_find?_eq_some found) pid) later₁
    (twin.left (.register r K owner wm))).of_doc (by simp)

/-- A first render phase of a mount point found by its number: flagged, its render call and the
placing of the output are followed from the flagged world, and the flag is cleared last. -/
theorem phase_follows {prog : Program} {r id m : Nat} {q : MountPoint} {s₀ : Scene}
    {walk : EStateM.Result Abort World (List Node)} {wm ws : World}
    (found : (wm.scene.points r).find? (·.id == id) = some q) (later : s₀.Later wm.scene) (twin : Twin prog wm ws)
    (body : ∀ wm₁, s₀.Later wm₁.scene → Twin prog wm₁ ws → wm₁.doc = wm.doc →
      Follows prog q.container wm₁ walk ((do
          let c ← callRender m q.render q.props q.children
          count r (fun m => { m with renders := m.renders.bump "dom" })
          placeOutput m r id { q with rendering := true } true c).run wm₁)) :
    Follows prog q.container wm walk ((renderPhase (m + 1) r id true).run wm) := by
  rw [renderPhase_run_of_found found]
  refine Follows.unflag ((body _ ?_ (twin.left (.modifyPoint r id _ wm)) (by simp)).of_doc (by simp))
  exact ok_of_noThrow (modifyPoint_later s₀ r id (fun q => { q with rendering := true }) (fun _ => rfl)) later
    (modifyPoint_run r id _ wm)

section Succ

variable {prog : Program} {n : Nat} (ih : Agrees prog n)
include ih

/-- Placing a host node or fragment, one level up: a fragment's children go into the container; a
host node's element is made last in the container with the node's props as its attributes, and its
children are mounted into it. -/
theorem place_follows (r id : Nat) (p : MountPoint) {expr : Value} {parts : Parts} {s : String} {m : Nat}
    {wm ws : World} (hp : expr.asNode?.bind split = some parts) (ht : parts.tag = .str s)
    (plain : parts.props.Plain) (clean : ∀ c ∈ parts.children, c.asNode?.isSome → Clean prog c)
    (fresh : p.element = none) (twin : Twin prog wm ws) (ready : Ready r p.container wm)
    (fuel : 2 * (n + 1) ≤ m + 1) :
    Follows prog p.container wm ((renderTree (n + 1) r expr).run ws) ((placeOutput m r id p true expr).run wm) := by
  by_cases frag : s = fragmentTag
  · subst frag
    rw [renderTree_fragment_eq hp ht, placeOutput_fragment_eq hp ht]
    exact ih.mountChildren r parts.children p.container id m wm ws clean twin ready (by omega)
  rw [renderTree_str_eq hp ht frag, placeOutput_str_eq hp ht frag, bind_run (hostElement r id p s),
    hostElement_attach_run r id p s fresh]
  dsimp only
  rw [bind_run (applyProps _ _ _ _ _), classify_of_plain plain, applyProps_plain_run]
  dsimp only
  -- The element is made and appended by one step, which keeps every mount point numbered.
  have later : wm.scene.Later ((modifyPoint r id (fun q => { q with element := some wm.doc.elements.size })).leaves
      { wm with doc := (wm.doc.create s).1.appendChild p.container wm.doc.elements.size }).scene :=
    (ok_of_noThrow (hostElement_later wm.scene r id p s) (.refl ready.numbered)
      (hostElement_attach_run r id p s fresh wm)).1
  refine Follows.element ready.into ?_ (attrPairs_classless plain) ((attrPairs_of_plain plain).symm ▸
    sorted_pairs_of_plain plain) (ih.mountChildren r parts.children _ id m _ ws clean ?_ ?_ (by omega))
  · rw [attrPairs_of_plain plain]
    simp
  · exact twin.left (((World.Restaged.doc wm _).trans (.modifyPoint r id _ _)).trans (.doc _ _))
  · refine ⟨Scene.numbered_of_renderers rfl later.numbered, ?_, ?_⟩
    · exact later.size ▸ ready.renderer
    · simp [Document.size_setAttributes]

/-- Mounting a host node or fragment, one level up: its number reserved and its mount point
registered, the first render phase rebuilds the node from its parts and places it. -/
theorem mount_host_follows (r : Nat) {v : Value} {into : Nat} (owner : Option Nat) {items : List Value}
    {parts : Parts} {s : String} {m : Nat} {wm ws : World} (hv : v.asNode? = some items) (hs : split items = some parts)
    (ht : parts.tag = .str s) (plain : parts.Plain) (clean : ∀ c ∈ parts.children, c.asNode?.isSome → Clean prog c)
    (twin : Twin prog wm ws) (ready : Ready r into wm) (fuel : 2 * (n + 1) + 1 ≤ m) :
    Follows prog into wm ((renderTree (n + 1) r v).run ws) ((mount m r v into owner).run wm) := by
  obtain ⟨m, rfl⟩ : ∃ k, m = k + 3 := ⟨m - 3, by omega⟩
  rw [mount_str_eq hv hs ht, bind_run (reserve r), reserve_run]
  dsimp only
  obtain ⟨later₁, after, vacant⟩ := ok_of_noThrow (reserve_later wm.scene r) (.refl ready.numbered) (reserve_run r wm)
  refine Follows.of_doc ?_ (register_follows (K := ⟨_, s, into, none, .host s, parts.props, parts.children, false, []⟩)
    later₁ after vacant rfl (later₁.size ▸ ready.renderer) (twin.left (.reserve r wm)) ?_)
  · rfl
  intro q wm₁ found kept fresh later₂ twin₁
  rw [← kept.container]
  refine phase_follows found later₂ twin₁ fun wm₂ later₃ twin₂ doc₂ => ?_
  -- The host render function rebuilds the node, counted before it is placed.
  have rendered : (callRender (m + 1) q.render q.props q.children).run wm₂ =
      .ok (.node (hostItems s parts.props parts.children)) wm₂ := by
    rw [kept.render, kept.props, kept.children]
    exact callRender_host _ _ _ _ _
  rw [bind_run (callRender _ _ _ _), rendered]
  dsimp only
  rw [bind_run (count _ _), count_run]
  dsimp only
  have later₄ := ok_of_noThrow (count_later wm.scene r (fun m => { m with renders := m.renders.bump "dom" })) later₃
    (count_run r _ _)
  rw [renderTree_congr (by rw [hv, Option.bind_some, hs]) (parts_rebuilt ht plain)]
  refine (place_follows ih r _ _ (m := m + 1) (parts_rebuilt ht plain) ht plain.props clean fresh
    (twin₂.left (.count r _ _)) ?_ (by omega)).of_doc (by simp)
  rw [kept.container]
  exact ready.of_later later₄

/-- Mounting a clean component node, one level up: its setup and its first render call are run as
the walk runs them, from twin worlds, with capabilities composed for the mount point instead of for
none; the output, clean again, is placed as the walk renders it. -/
theorem mount_component_follows (r : Nat) {v : Value} {into : Nat} (owner : Option Nat) {items : List Value}
    {parts : Parts} {c : Component} {form : ComponentForm} {m : Nat} {wm ws : World} (clean : Clean prog v)
    (hv : v.asNode? = some items) (hs : split items = some parts) (ht : parts.tag.component? = some (c, form))
    (twin : Twin prog wm ws) (ready : Ready r into wm) (fuel : 2 * (n + 1) + 1 ≤ m) :
    Follows prog into wm ((renderTree (n + 1) r v).run ws) ((mount m r v into owner).run wm) := by
  obtain ⟨quiet, outputs⟩ := clean.output hv hs ht
  obtain ⟨m, rfl⟩ : ∃ k, m = k + 2 := ⟨m - 2, by omega⟩
  rw [renderTree_component_eq (by rw [hv, Option.bind_some, hs]) ht, mount_component_eq hv hs ht,
    bind_run (reserve r), reserve_run]
  dsimp only
  obtain ⟨later₁, after, vacant⟩ := ok_of_noThrow (reserve_later wm.scene r) (.refl ready.numbered) (reserve_run r wm)
  have twin₁ := twin.left (.reserve r wm)
  -- Both sides compose the renderer's plugins, the mount for its mount point and the walk for none.
  have plugins : ((wm.renderers.modify r fun rd => { rd with next := rd.next + 1 }).getD r Renderer.default).plugins =
      (ws.renderers.getD r Renderer.default).plugins :=
    congrArg (fun o => (o r).1) twin₁.options
  rw [bind_run (renderer r), bind_run (renderer r), renderer_run, renderer_run]
  dsimp only
  rw [plugins, bind_run (compose _ _), bind_run (compose _ _), compose_run, compose_run]
  dsimp only
  rw [twin.capsets]
  refine Follows.of_doc ?_ (Follows.bind (instantiate_confined n quiet _ _ _) (instantiate_confined (m + 1) quiet _ _ _)
    (Extends.of_le (fun k => (deepens k).instantiate c _ _ _) (by omega)) (twin₁.compose _ _ _ _ _) ?_)
  · rfl
  intro fn ws₁ setup twin₂
  rw [bind_run (count _ _), bind_run (count _ _), count_run, count_run]
  dsimp only
  -- The mount point is registered under its number, with the setup's render function.
  refine Follows.of_doc ?_ (register_follows (K := ⟨_, c.name form, into, none, fn, parts.props, parts.children, false, []⟩)
    ?_ after ?_ rfl ?_ ((twin₂.left (.count r _ _)).right (.count r (fun m => { m with setups := m.setups + 1 }) ws₁))
    ?_)
  · rfl
  · exact later₁.count r _
  · exact ((Scene.Later.refl later₁.numbered).count r _).vacant vacant
  · exact (later₁.count r _).size ▸ ready.renderer
  intro q wm₁ found kept fresh later₂ twin₃
  have render : q.render = fn := kept.render
  have props : q.props = parts.props := kept.props
  have children : q.children = parts.children := kept.children
  rw [← kept.container]
  refine phase_follows found later₂ twin₃ fun wm₂ later₃ twin₄ _ => ?_
  -- The render call runs on both sides as well; its output is clean and is counted before it is placed.
  rw [render, props, children]
  refine Follows.bind (callRender_confined n fn _ _) (callRender_confined m fn _ _)
    (Extends.of_le (fun k => (deepens k).callRender fn _ _) (by omega)) twin₄ fun expr ws₃ rendered twin₅ => ?_
  rw [bind_run (count _ _), bind_run (count _ _), count_run, count_run]
  dsimp only
  have output : Clean prog expr := outputs (by exact twin.rendering) setup (by rfl) (by rfl) rendered
  have twin₆ := (twin₅.left (.count r (fun m => { m with renders := m.renders.bump "dom" }) _)).right
    (.count r (fun m => { m with renders := m.renders.bump "string" }) ws₃)
  have ready₆ : Ready r q.container ((count r fun m => { m with renders := m.renders.bump "dom" }).leaves
      (wm₂.graft ws₃.core)) := by
    rw [kept.container]
    exact ready.of_later (later₃.count r _)
  obtain ⟨parts', hp', ⟨s', ht', plain', children'⟩ | ⟨c', form', ht'⟩⟩ := output.placed
  · exact (ih.place r _ _ expr parts' s' m _ _ hp' ht' plain'.props children' fresh twin₆ ready₆ (by omega)).of_doc
      (by simp)
  · rw [placeOutput_component_eq hp' ht']
    exact (ih.mount r expr _ _ m _ _ output twin₆ ready₆ (by omega)).of_doc (by simp)

/-- Mounting clean content, one level up: a host node or fragment, or a component node. -/
theorem mount_follows (r : Nat) {v : Value} {into : Nat} (owner : Option Nat) {m : Nat} {wm ws : World}
    (clean : Clean prog v) (twin : Twin prog wm ws) (ready : Ready r into wm) (fuel : 2 * (n + 1) + 1 ≤ m) :
    Follows prog into wm ((renderTree (n + 1) r v).run ws) ((mount m r v into owner).run wm) := by
  cases h : clean with
  | host hv hs ht plain children => exact mount_host_follows ih r owner hv hs ht plain children twin ready fuel
  | greeting hv hs ht =>
    exact mount_component_follows ih r owner clean hv hs (by rw [ht, Value.component?]) twin ready fuel
  | script hv hs ht =>
    exact mount_component_follows ih r owner clean hv hs (by rw [ht, Value.component?]) twin ready fuel

/-- Mounting children, one level up: each node child is mounted and each other value's text
appended, after what the earlier children appended. -/
theorem mountChildren_follows (r : Nat) (cs : List Value) (into owner : Nat) {m : Nat} {wm ws : World}
    (clean : ∀ c ∈ cs, c.asNode?.isSome → Clean prog c) (twin : Twin prog wm ws) (ready : Ready r into wm)
    (fuel : 2 * (n + 1) + 1 ≤ m) :
    Follows prog into wm ((renderForest (n + 1) r cs).run ws) ((mountChildren m r cs into owner).run wm) := by
  obtain ⟨m, rfl⟩ : ∃ k, m = k + 1 := ⟨m - 1, by omega⟩
  cases cs with
  | nil =>
    rw [renderForest, mountChildren]
    constructor
    · intro ms ws' run
      cases run
      exact ⟨wm, rfl, twin, .refl _ _⟩
    · intro e ws' run
      cases run
  | cons c rest =>
    rw [renderForest, mountChildren]
    have restClean : ∀ c' ∈ rest, c'.asNode?.isSome → Clean prog c' := fun c' mem => clean c' (List.mem_cons_of_mem c mem)
    -- The first child is mounted, or its text appended; either way the container stays ready.
    by_cases node : c.asNode?.isSome = true
    · rw [if_pos node]
      refine Follows.seq ready.into
        (ih.mount r c into (some owner) m wm ws (clean c List.mem_cons_self node) twin ready (by omega))
        fun ms ws₁ wm₁ _ placed twin₁ => ?_
      have ready₁ : Ready r into wm₁ := ready.of_later
        (ok_of_triple ((listenersKept m).mount wm.scene r c into (some owner)) (.refl ready.numbered) placed)
      exact ih.mountChildren r rest into owner m wm₁ ws₁ restClean twin₁ ready₁ (by omega)
    · rw [if_neg node]
      refine Follows.seq ready.into (Follows.text (by simpa using node) n r twin) fun ms ws₁ wm₁ _ placed twin₁ => ?_
      rw [modifyDoc_run] at placed
      cases placed
      have ready₁ : Ready r into { wm with doc := wm.doc.appendText into c.text } :=
        ready.mono (Scene.numbered_of_renderers rfl ready.numbered) rfl (by simp)
      exact ih.mountChildren r rest into owner m _ ws₁ restClean twin₁ ready₁ (by omega)

/-- One level up the mount follows the walk as well. -/
theorem Agrees.succ : Agrees prog (n + 1) where
  place r id p _ _ _ _ _ _ hp ht plain clean fresh twin ready fuel :=
    place_follows ih r id p hp ht plain clean fresh twin ready fuel
  mount r _ _ owner _ _ _ clean twin ready fuel := mount_follows ih r owner clean twin ready fuel
  mountChildren r cs into owner _ _ _ clean twin ready fuel :=
    mountChildren_follows ih r cs into owner clean twin ready fuel

end Succ

/-- At every depth of the walk, the mount of clean content follows it. -/
theorem agrees (prog : Program) : ∀ n, Agrees prog n
  | 0 => .zero prog
  | n + 1 => (agrees prog n).succ


/-! ## The entry points -/

/-- The two entry points agree on clean content. With a renderer that escapes, take a world whose live
mount points are all numbered and an element there with no children, and content clean for the
world's program. Whenever rendering to markup returns, with markup or a failure, mounting into the
element returns too, with no failure exactly when there is markup, the element then holding that very
markup inside it, and otherwise with the same failure. -/
theorem mount_agrees_with_renderToString {r c : Nat} {v : Value} {w ws : World} {f : Face}
    {html : Except Failure String}
    (clean : Clean w.program v) (numbered : w.scene.Numbered) (present : r < w.renderers.size)
    (escapes : w.escapes r = true) (empty : w.doc.face c = some f) (childless : f.children = [])
    (rendered : (renderToString r v).run w = .ok html ws) :
    ∃ res wm, (mountInto r v c).run w = .ok res wm ∧
      ((∃ out, html = .ok out ∧ res = none ∧ wm.doc.innerHTML c = out) ∨ (∃ e, html = .error e ∧ res = some e)) := by
  have ready : Ready r c w := ⟨numbered, present, Document.lt_of_face empty⟩
  -- A mount is given twice the walk's depth and one more, which is what following the walk takes.
  have follows := (agrees w.program depthAllowance).mount r v c none mountAllowance w w clean
    (Twin.refl rfl) ready le_rfl
  -- The string backend writes the walk's forest, escaped.
  rw [renderToString, attempt_run, recover_run, (renderString_run_eq depthAllowance).1, map_run, escapes] at rendered
  simp only [mountInto, bind_run, attempt_run, recover_run]
  cases walk : (renderTree depthAllowance r v).run w with
  | ok ms ws₁ =>
    obtain ⟨wm, done, -, appends⟩ := follows.finished ms ws₁ walk
    rw [walk] at rendered
    simp only [EStateM.Result.ok.injEq] at rendered
    obtain ⟨rfl, -⟩ := rendered
    -- The element had no children, so it now holds just what the mount appended.
    obtain ⟨C, face, writes⟩ := appends.children
    rw [empty, Option.map_some, childless, List.nil_append] at face
    refine ⟨none, wm, by rw [done]; rfl, .inl ⟨_, rfl, rfl, ?_⟩⟩
    rw [escaper, if_pos rfl]
    exact Document.innerHTML_of_writes face writes
  | error e ws₁ =>
    rw [walk] at rendered
    -- A walk that ran out is no answer of the string backend; any other stop is the mount's too.
    rcases follows.stopped e ws₁ walk with rfl | ⟨wm, done⟩
    · cases rendered
    rw [done]
    cases e with
    | fail e =>
      simp only [EStateM.Result.ok.injEq] at rendered
      exact ⟨some e, wm, rfl, .inr ⟨e, rendered.1.symm, rfl⟩⟩
    | capability e =>
      simp only [EStateM.Result.ok.injEq] at rendered
      exact ⟨some e, wm, rfl, .inr ⟨e, rendered.1.symm, rfl⟩⟩
    | exhausted => cases rendered

/-- A titled paragraph holding a text and the greeting, rendered to markup by an escaping renderer
and mounted by it into the body of a fresh document: the rendering returns, so the mount returns,
and the two agree. -/
theorem titled_greeting_mounts_as_rendered :
    let w : World := { World.fresh default #[{ Renderer.default with escape := true }] with
      doc := (Host.Document.empty.create "body").1 }
    let v : Value := .node [.str "p", .props (some [("title", .str "a<b")]), .str "hi",
      .node [.component (.demo .godspeedYou) .component, .props (some [("who", .str "you")])]]
    ∃ html ws, (renderToString 0 v).run w = .ok html ws ∧ ∃ res wm, (mountInto 0 v 0).run w = .ok res wm ∧
      ((∃ out, html = .ok out ∧ res = none ∧ wm.doc.innerHTML 0 = out) ∨ (∃ e, html = .error e ∧ res = some e)) := by
  intro w v
  have greeting : Clean w.program
      (.node [.component (.demo .godspeedYou) .component, .props (some [("who", .str "you")])]) :=
    .greeting rfl rfl rfl
  have clean : Clean w.program v := by
    refine .host rfl rfl rfl ⟨⟨?_, by decide⟩, fun _ => rfl⟩ ?_
    · simp
    · intro c mem node
      simp only [List.mem_cons, List.not_mem_nil, or_false] at mem
      rcases mem with rfl | rfl
      · cases node
      · exact greeting
  have numbered : w.scene.Numbered := Scene.numbered_one _ _ (by simp [Renderer.default])
  have rendered : ((renderToString 0 v).run' w).isSome = true := by decide +kernel
  cases h : (renderToString 0 v).run w with
  | error e ws => simp [EStateM.run', h] at rendered
  | ok html ws => exact ⟨html, ws, rfl, mount_agrees_with_renderToString clean numbered (by decide) rfl rfl rfl h⟩

/-- An empty child node breaks the agreement: the string backend renders it as nothing, while a
mount returns a failure (it cannot mount the empty node). -/
theorem empty_child_renders_but_fails_to_mount :
    let w : World := { World.fresh default #[{ Renderer.default with escape := true }] with
      doc := (Host.Document.empty.create "body").1 }
    let v : Value := .node [.str "div", .node []]
    ((renderToString 0 v).run' w).map Except.toOption = some (some "<div></div>") ∧
      ((mountInto 0 v 0).run' w).map Option.isSome = some true := by
  intro w v
  constructor <;> decide +kernel

end Run

end ViewEngine
