import Mathlib
import ViewEngine.Proofs.Live.Steady

/-! Re-rendering by a renderer that clears on update. A release takes out what a mount point's kids
reach and leaves it with no kids (`Run.release_run`); emptying its element keeps every face but the
element's own and every element's properties. A mount point is shown through its element when the
element has the tag, the style and the children's markup of the last render and the mount point's
tree holds itself and what that render spawned (`Run.Shown`). A first render phase of host output
with steady children shows the mount point through a new element (`Run.firstPhase_shown`); each
cleared re-render shows it again through the same element, restyled over what the render before
left (`Run.rerender_shown`). Over a whole series whose outputs restyle one another, the style left
is the one the latest props leave on a fresh element, so the element and the tree are those of a
fresh mount of the latest output (`Run.cleared_rerender_matches_fresh_mount`). -/

namespace ViewEngine

open Host Markup

/-- How many live mount points the tree of a mount point holds: the mount point itself, when live,
and every one reached from it through kids lists. It is what a release sweep from the mount point
takes out. -/
def Scene.treeSize (s : Scene) (r id : Nat) : Nat :=
  (Run.dropPoints.sweep (Run.kidCount (s.points r) + 2) [id] (s.points r) 0).2

/-- Whatever a mount point of an arena reaches through its kids is numbered after it. -/
theorem Arena.reached_after {ps : List MountPoint} (a : Arena ps) {p : MountPoint} (hp : p ∈ ps) {i : Nat}
    (h : Reached ps p.kids i) : p.id < i := by
  induction h with
  | root mem => exact a.kids_after p hp _ mem
  | kid ho _ kid ih => exact Nat.lt_trans ih (a.kids_after _ ho _ kid)

/-- In mount points with distinct numbers, a member is the one found by its number. -/
theorem find?_of_mem {ps : List MountPoint} (nodup : (ps.map (·.id)).Nodup) {q : MountPoint} (mem : q ∈ ps) :
    ps.find? (·.id == q.id) = some q := by
  rcases found : ps.find? (·.id == q.id) with _ | q'
  · rw [List.find?_eq_none] at found
    simpa using found q mem
  · have mem' := List.mem_of_find?_eq_some found
    have same : q'.id = q.id := by simpa using List.find?_some found
    rw [found, List.inj_on_of_nodup_map nodup mem' mem same]

/-- A mount point there before a spawning is there after it, kept. -/
theorem Spawned.kept_mem {owner base : Nat} {ps ps' : List MountPoint} {k : Nat} (h : Spawned owner base ps ps' k)
    {p : MountPoint} (mem : p ∈ ps) : ∃ p' ∈ ps', p.Kept p' ∧ (p.id ≠ owner → p'.kids = p.kids) := by
  obtain ⟨g, new, rfl, -, kept, -⟩ := h
  obtain ⟨keep, added, kids, other, -⟩ := kept p mem
  refine ⟨g p, List.mem_append_left _ (List.mem_map_of_mem mem), keep, fun ne => ?_⟩
  rw [kids, other ne, List.append_nil]

namespace Host.Document

variable {L : Type}

/-- Forgetting the parents of children keeps every face and every element's properties. -/
theorem forgetParents_get? (ids : List Nat) (d : Document L) (x : Nat) :
    ((ids.foldl (fun d c => d.modify c (fun k => { k with parent := none })) d).get? x).map
      (fun e => (e.face, e.props)) = (d.get? x).map (fun e => (e.face, e.props)) := by
  induction ids generalizing d with
  | nil => rfl
  | cons c rest ih =>
    rw [List.foldl_cons, ih, get?_modify]
    split
    · cases d.get? x <;> rfl
    · rfl

/-- Emptying an element leaves it with no children; every other face, and every element's
properties, stay. -/
theorem face_removeChildren (d : Document L) (el x : Nat) :
    (d.removeChildren el).face x = if x = el then (d.face x).map (fun f => { f with children := [] }) else d.face x := by
  unfold removeChildren
  split
  · rename_i absent
    by_cases same : x = el
    · subst same
      simp [face, absent]
    · simp [same]
  · rename_i e _
    dsimp only
    rw [face_modify (g := fun f => { f with children := [] }) (fun _ => rfl)]
    have keeps : ∀ y, ((elementIds e.children).foldl (fun d c => d.modify c (fun k => { k with parent := none }))
        d).face y = d.face y := fun y => by
      simpa [face, Option.map_map, Function.comp_def] using
        congrArg (Option.map Prod.fst) (forgetParents_get? (elementIds e.children) d y)
    simp only [keeps]

theorem propsAt_removeChildren (d : Document L) (el x : Nat) : (d.removeChildren el).propsAt x = d.propsAt x := by
  unfold removeChildren
  split
  · rfl
  · rename_i e _
    dsimp only
    rw [propsAt_modify_of_props (f := fun e => { e with children := [] }) (fun _ => rfl)]
    simpa [propsAt, Option.map_map, Function.comp_def] using
      congrArg (Option.map Prod.snd) (forgetParents_get? (elementIds e.children) d x)

/-- Restyling an element by props: its face takes the classes and attributes, and it the properties,
that the props leave on the style it had; its tag and children stay. -/
theorem restyle_shown {d : Document L} {el : Nat} {f : Face} {props : Dict Value} (ps : List Attr)
    (lis : Element L → Dict (List L)) (face : d.face el = some f) (styled : d.propsAt el = some props) :
    let st := ps.foldl (fun st p => p.restyle st) ⟨f.classes, f.attrs, props⟩
    (d.modify el fun e => { e.withStyle (ps.foldl (fun st p => p.restyle st) e.style) with listeners := lis e }).face el =
        some ⟨f.tag, st.classes, st.attrs, f.children⟩ ∧
      (d.modify el fun e => { e.withStyle (ps.foldl (fun st p => p.restyle st) e.style) with listeners := lis e }).propsAt
        el = some st.props := by
  intro st
  obtain ⟨e, got, rfl⟩ := Option.map_eq_some_iff.1 face
  have same : e.props = props := by
    simpa [propsAt, got] using styled
  subst same
  refine ⟨?_, ?_⟩
  · simp only [Document.face, get?_modify, got, if_true, Option.map_some]
    rfl
  · simp only [propsAt, get?_modify, got, if_true, Option.map_some]
    rfl

end Host.Document

namespace Run

/-- Releasing a live mount point: the mount points reached from its kids are taken out, it keeps
no kids, and the document, the program and the numbers handed out stay. -/
theorem release_run {r id : Nat} {q : MountPoint} {w : World} (present : r < w.renderers.size)
    (found : (w.scene.points r).find? (·.id == id) = some q) (nodup : ((w.scene.points r).map (·.id)).Nodup) :
    ∃ (kept : List MountPoint) (w' : World), (release r id).run w = .ok () w' ∧ w'.doc = w.doc ∧
      w'.program = w.program ∧ w'.scene.next r = w.scene.next r ∧
      w'.scene.points r = kept.map (fun p => if p.id == id then { p with kids := [] } else p) ∧
      ∀ p, p ∈ kept ↔ p ∈ w.scene.points r ∧ ¬ Reached (w.scene.points r) q.kids p.id := by
  obtain ⟨kept, n, dropped, mem, -, -⟩ := dropPoints_spec r q.kids w nodup
  let w₁ : World := { w with renderers := w.renderers.modify r (fun rd => { rd with points := kept }) }
  let w₂ := (modifyPoint r id (fun p => { p with kids := [] })).leaves w₁
  have kept₁ : w₁.scene.points r = kept := by
    show (⟨w.doc, w.renderers.modify r _⟩ : Scene).points r = _
    rw [Scene.points_modify, if_pos ⟨rfl, present⟩]
  have next₁ : w₁.scene.next r = w.scene.next r := by
    show (⟨w.doc, w.renderers.modify r _⟩ : Scene).next r = _
    rw [Scene.next_modify, if_pos ⟨rfl, present⟩]
    rfl
  have points₂ : w₂.scene.points r = kept.map (fun p => if p.id == id then { p with kids := [] } else p) := by
    rw [← kept₁]
    exact points_modifyPoint r id _ w₁
  have run : (release r id).run w =
      (if n > 0 then count r (fun m => { m with mountPoints := m.mountPoints - n }) else pure ()).run w₂ := by
    have found' : (w.renderers.getD r Renderer.default).points.find? (·.id == id) = some q := found
    simp only [release, bind_run, point?, renderer, get_run, pure_run, found', dropped, modifyPoint_run]
    rfl
  -- Counting the released mount points touches the metrics alone.
  by_cases some : n > 0
  · refine ⟨kept, (count r _).leaves w₂, by rw [run, if_pos some]; rfl, rfl, rfl, ?_, ?_, mem⟩
    · rw [next_leaves_count, next_leaves_modifyPoint, next₁]
    · rw [points_leaves_count, points₂]
  · refine ⟨kept, w₂, by rw [run, if_neg some]; rfl, rfl, rfl, ?_, points₂, mem⟩
    rw [next_leaves_modifyPoint, next₁]

/-- A renderer that clears on update empties the mount point's element and releases what was
mounted under the mount point. -/
theorem hostElement_clearing {r id el : Nat} {p q : MountPoint} (tag : String) {w : World}
    (placed : p.element = some el) (clears : (w.renderers.getD r Renderer.default).clearOnUpdate = true)
    (present : r < w.renderers.size) (found : (w.scene.points r).find? (·.id == id) = some q)
    (nodup : ((w.scene.points r).map (·.id)).Nodup) :
    ∃ (kept : List MountPoint) (w' : World), (hostElement r id p tag).run w = .ok el w' ∧
      w'.doc = w.doc.removeChildren el ∧ w'.program = w.program ∧ w'.scene.next r = w.scene.next r ∧
      w'.scene.points r = kept.map (fun p => if p.id == id then { p with kids := [] } else p) ∧
      ∀ p, p ∈ kept ↔ p ∈ w.scene.points r ∧ ¬ Reached (w.scene.points r) q.kids p.id := by
  -- Emptying the element changes the document alone, so the release sees the same mount points.
  let w₁ : World := { w with doc := w.doc.removeChildren el }
  obtain ⟨kept, w', released, doc, program, next, points, mem⟩ :=
    release_run (w := w₁) present found nodup
  refine ⟨kept, w', ?_, doc, program, next, points, mem⟩
  simp only [hostElement, placed, bind_run, renderer, get_run, pure_run, clears, if_true, clearElement,
    modifyDoc_run]
  rw [show (release r id).run { w with doc := w.doc.removeChildren el } = .ok () w' from released]


/-- Clearing a mount point's flag after a spawning under it spawns nothing more. -/
theorem spawned_unflagged {r id base k : Nat} {ps : List MountPoint} {w₆ : World} (owned : id ≤ base)
    (h : Spawned id base ps (w₆.scene.points r) k) :
    Spawned id base ps (((modifyPoint r id fun p => { p with rendering := false }).leaves w₆).scene.points r) k := by
  have unflagged : ((modifyPoint r id fun p => { p with rendering := false }).leaves w₆).scene.points r =
      (w₆.scene.points r).map (fun q => if q.id == id then { q with rendering := false } else q) :=
    points_modifyPoint r id _ w₆
  rw [unflagged]
  simpa using h.trans owned (Spawned.flag id _ id false (w₆.scene.points r))

/-- A mount point shown through its element: it is live, kept, with the element; the element has
the tag, the style `st`'s classes and attributes and children that draw `ms`, and `st`'s properties;
and its tree holds itself and `k` more. -/
structure Shown (r : Nat) (K : MountPoint) (el : Nat) (w : World) (tag : String) (st : Style) (ms : List Node)
    (k : Nat) : Prop where
  point : ∃ q, (w.scene.points r).find? (·.id == K.id) = some q ∧ K.Kept q ∧ q.element = some el
  face : ∃ C, w.doc.face el = some ⟨tag, st.classes, st.attrs, C⟩ ∧ w.doc.Draws (el + 1) C ms
  styled : w.doc.propsAt el = some st.props
  tree : w.scene.treeSize r K.id = k + 1

/-- The first render phase of a mount point with no element and no kids, whose output is a host node
with steady children: the mount point is shown through a new element, made last, with the style its
props leave on a fresh element. -/
theorem firstPhase_shown {prog : Program} {fuel r : Nat} {K : MountPoint} {parts : Parts} {s : String}
    {ms : List Node} {k : Nat} {w w' : World} (program : w.program = prog)
    (found : (w.scene.points r).find? (·.id == K.id) = some K) (empty : w.scene.Unplaced r K.id)
    (bare : K.kids = []) (tidy : w.arena.Tidy) (ready : Ready r K.container w)
    (outputs : ∀ c w₂, (callRender fuel K.render K.props K.children).run w = .ok c w₂ →
      c.asNode?.bind split = some parts)
    (ht : parts.tag = .str s) (other : s ≠ fragmentTag) (all : SteadyAll prog parts.children ms k)
    (run : (renderPhase (fuel + 1) r K.id true).run w = .ok () w') :
    Shown r K w.doc.elements.size w' s (parts.props.style .fresh) ms k ∧ w'.program = prog := by
  have arena : w.arena.Later w'.arena ∧ w'.arena.Tidy :=
    ok_of_triple ((arenaKept (fuel + 1)).renderPhase w.arena r K.id true) ⟨.refl ready.numbered, tidy⟩ run
  have nodup : ((w'.scene.points r).map (·.id)).Nodup := (arena.2 r).ids
  obtain ⟨c, w₂, w₅, w₆, renders, later, doc, program₅, -, next, points, body, rfl⟩ :=
    renderPhase_placed found ready.numbered run
  have mem : K ∈ w.scene.points r := List.mem_of_find?_eq_some found
  have unplaced : K.element = none := empty K mem rfl
  obtain ⟨w₈, att, inner⟩ := placeElement_attached r K.id { K with rendering := true } (outputs c w₂ renders)
    ht other unplaced (ready.of_later later) body
  -- The mount point, flagged and given the element, is there to own what the children spawn.
  let K₈ : MountPoint := { { K with rendering := true } with element := some w₅.doc.elements.size }
  have mem₈ : K₈ ∈ w₈.scene.points r := by
    rw [att.points, points, List.map_map]
    exact List.mem_map.2 ⟨K, mem, by simp [K₈]⟩
  have mounted := (steadyMounting prog fuel).mountChildren r parts.children _ K.id ms k w₈ w₆
    (att.program.trans (program₅.trans program)) all att.ready ⟨K₈, mem₈, rfl⟩ inner
  have owned : K.id ≤ w₈.scene.next r := att.ready.numbered r K₈ mem₈
  -- Clearing the flag last spawns nothing more.
  have spawned := spawned_unflagged owned mounted.spawned
  rw [← doc]
  refine ⟨⟨?_, ?_, ?_, ?_⟩, mounted.program.trans (att.program.trans (program₅.trans program))⟩
  · obtain ⟨p', mem', kept', -⟩ := Spawned.kept_mem spawned mem₈
    have kept : K.Kept K₈ :=
      (MountPoint.Kept.rendering K true).trans ⟨rfl, fun _ h => (by rw [unplaced] at h; cases h), rfl, rfl, rfl, rfl⟩
    refine ⟨p', ?_, kept.trans kept', kept'.element _ rfl⟩
    have pid : p'.id = K.id := (kept.trans kept').id
    have found' := find?_of_mem nodup mem'
    rwa [pid] at found'
  · obtain ⟨C, face₆, draws₆⟩ := mounted.fills.children
    refine ⟨C, ?_, att.size ▸ draws₆⟩
    rw [doc_leaves_modifyPoint, face₆, att.made]
    rfl
  · rw [doc_leaves_modifyPoint, mounted.fills.props _ (by rw [att.size]; omega), att.styled]
  · show (Run.dropPoints.sweep _ [K₈.id] _ 0).2 = k + 1
    exact Spawned.sweep_count spawned mem₈ bare (fun p hp => att.ready.numbered r p hp) nodup

/-- A re-render of a shown mount point by a renderer that clears on update, whose output is a host
node with steady children: the mount point is shown through the same element, restyled by the
output's props, and holds what its children spawned. -/
theorem rerender_shown {prog : Program} {fuel r el : Nat} {K : MountPoint} {parts : Parts} {s : String}
    {st : Style} {ms₀ ms : List Node} {k₀ k : Nat} {u u' : World} (program : u.program = prog)
    (shown : Shown r K el u s st ms₀ k₀) (clears : (u.renderers.getD r Renderer.default).clearOnUpdate = true)
    (tidy : u.arena.Tidy) (ready : Ready r el u)
    (outputs : ∀ c w₂, (callRender fuel K.render K.props K.children).run u = .ok c w₂ →
      c.asNode?.bind split = some parts)
    (ht : parts.tag = .str s) (other : s ≠ fragmentTag) (all : SteadyAll prog parts.children ms k)
    (run : (update (fuel + 2) r K.id).run u = .ok () u') :
    Shown r K el u' s ((classify parts.props).foldl (fun st p => p.restyle st) st) ms k ∧ u'.program = prog := by
  have phase : (renderPhase (fuel + 1) r K.id false).run u = .ok () u' := by
    rw [update, recover_run] at run
    split at run
    · cases run
    · exact run
  have arena : u.arena.Later u'.arena ∧ u'.arena.Tidy :=
    ok_of_triple ((arenaKept (fuel + 1)).renderPhase u.arena r K.id false) ⟨.refl ready.numbered, tidy⟩ phase
  have nodup' : ((u'.scene.points r).map (·.id)).Nodup := (arena.2 r).ids
  obtain ⟨q, found, keptK, elt⟩ := shown.point
  obtain ⟨c, w₂, w₅, w₆, renders, later, doc, program₅, options₅, next, points, body, rfl⟩ :=
    renderPhase_placed found ready.numbered phase
  have parted : c.asNode?.bind split = some parts := by
    rw [keptK.render, keptK.props, keptK.children] at renders
    exact outputs c w₂ renders
  rw [placeOutput_str_eq parted ht other] at body
  obtain ⟨el', w₇, placed, body⟩ := bind_ok body
  -- The flagged mount point is found by its number, among mount points that still form an arena.
  have qid : q.id = K.id := keptK.id
  have arena₅ : Arena (w₅.scene.points r) :=
    points ▸ (tidy r).map K.id (fun p => { p with rendering := true }) (fun _ => rfl) fun _ _ _ hk => .inl hk
  have mem₅ : { q with rendering := true } ∈ w₅.scene.points r := by
    rw [points]
    exact List.mem_map.2 ⟨q, List.mem_of_find?_eq_some found, by simp [qid]⟩
  have found₅ := find?_of_mem arena₅.ids mem₅
  rw [show ({ q with rendering := true } : MountPoint).id = K.id from qid] at found₅
  have present₅ : r < w₅.renderers.size := later.size ▸ ready.renderer
  obtain ⟨kept, w₇', cleared, doc₇, program₇, next₇, points₇, mem₇⟩ := hostElement_clearing (p := { q with rendering := true })
    s elt ((clearOnUpdate_of_options options₅ r).trans clears) present₅ found₅ arena₅.ids
  have later₇ : w₅.scene.Later w₇'.scene :=
    (ok_of_noThrow (hostElement_later w₅.scene r K.id { q with rendering := true } s) (.refl later.numbered) cleared).1
  rw [cleared] at placed
  cases placed
  obtain ⟨_, w₈, applied, body⟩ := bind_ok body
  obtain ⟨lis, rfl⟩ := applyProps_restyles (fun q hq => (classified_of_mem_classify hq).1) applied
  let restyled : Element Listener → Element Listener := fun e =>
    { e.withStyle ((classify parts.props).foldl (fun st p => p.restyle st) e.style) with listeners := lis e }
  let w₈ : World := { w₇ with doc := w₇.doc.modify el restyled }
  have inside : el < w₅.doc.elements.size := by rw [doc]; exact ready.into
  have ready₈ : Ready r el w₈ := by
    refine ⟨Scene.numbered_of_renderers (w := w₇) rfl later₇.numbered, later₇.size ▸ present₅, ?_⟩
    show el < (w₇.doc.modify el restyled).elements.size
    rw [Host.Document.size_modify, doc₇, Host.Document.size_removeChildren]
    exact inside
  -- The mount point is not reached from its own kids, so the release keeps it, with no kids.
  let K₈ : MountPoint := { { q with rendering := true } with kids := [] }
  have mem₈ : K₈ ∈ w₈.scene.points r := by
    show K₈ ∈ w₇.scene.points r
    rw [points₇]
    refine List.mem_map.2 ⟨{ q with rendering := true }, (mem₇ _).2 ⟨mem₅, fun reached => ?_⟩, by simp [K₈, qid]⟩
    exact Nat.lt_irrefl _ (arena₅.reached_after mem₅ reached)
  have mounted := (steadyMounting prog fuel).mountChildren r parts.children el K.id ms k w₈ w₆
    (program₇.trans (program₅.trans program)) all ready₈ ⟨K₈, mem₈, qid⟩ body
  -- The element as the last render showed it, emptied, then restyled by the new props.
  obtain ⟨C₀, face₀, -⟩ := shown.face
  have face₇ : w₇.doc.face el = some ⟨s, st.classes, st.attrs, []⟩ := by
    rw [doc₇, Host.Document.face_removeChildren, if_pos rfl, doc, face₀]
    rfl
  have props₇ : w₇.doc.propsAt el = some st.props := by
    rw [doc₇, Host.Document.propsAt_removeChildren, doc, shown.styled]
  obtain ⟨face₈, props₈⟩ := Host.Document.restyle_shown (classify parts.props) lis face₇ props₇
  have owned : K.id ≤ w₈.scene.next r := qid ▸ ready₈.numbered r K₈ mem₈
  -- Clearing the flag last spawns nothing more.
  have spawned := spawned_unflagged owned mounted.spawned
  refine ⟨⟨?_, ?_, ?_, ?_⟩, mounted.program.trans (program₇.trans (program₅.trans program))⟩
  · obtain ⟨p', mem', kept', -⟩ := Spawned.kept_mem spawned mem₈
    have kept : K.Kept K₈ :=
      keptK.trans ((MountPoint.Kept.rendering q true).trans ⟨rfl, fun _ h => h, rfl, rfl, rfl, rfl⟩)
    refine ⟨p', ?_, kept.trans kept', kept'.element _ elt⟩
    have pid : p'.id = K.id := (kept.trans kept').id
    have found' := find?_of_mem nodup' mem'
    rwa [pid] at found'
  · obtain ⟨C, face₆, draws₆⟩ := mounted.fills.children
    refine ⟨C, ?_, draws₆.mono ready₈.into⟩
    rw [doc_leaves_modifyPoint, face₆]
    show ((w₇.doc.modify el restyled).face el).map _ = _
    rw [face₈]
    rfl
  · rw [doc_leaves_modifyPoint, mounted.fills.props el ready₈.into]
    exact props₈
  · unfold Scene.treeSize
    have spawned₈ : Spawned K₈.id (w₈.scene.next r) (w₈.scene.points r)
        (((modifyPoint r K.id fun p => { p with rendering := false }).leaves w₆).scene.points r) k := by
      rw [show K₈.id = K.id from qid]
      exact spawned
    have swept := Spawned.sweep_count spawned₈ mem₈ rfl (fun p hp => ready₈.numbered r p hp) nodup'
    rwa [show K₈.id = K.id from qid] at swept

/-- A series that finished started at least one render. -/
theorem renderSeries_ne_nil {fuel r id : Nat} {w : World} :
    ∀ {n : Nat} {ws : List World} {w' : World}, renderSeries fuel r id n w = some (ws, w') → ws ≠ []
  | 0, ws, w', series => by
    rw [renderSeries] at series
    split at series
    · cases series
      simp
    · cases series
  | n + 1, ws, w', series => by
    rw [renderSeries] at series
    split at series
    · cases series
    · split at series
      · cases series
        simp
      · cases series

/-- A cleared re-render series of a mount point with no element and no kids, each output a host node
of one tag with steady children, and each output's props restyling the one's before: the mount point
is shown through the element its first render made, with the style the latest output's props leave
on a fresh element. -/
theorem renderSeries_shown {prog : Program} {fuel r : Nat} {K : MountPoint} {s : String} {parts : World → Parts}
    {w : World} (program : w.program = prog) (found : (w.scene.points r).find? (·.id == K.id) = some K)
    (empty : w.scene.Unplaced r K.id) (bare : K.kids = []) (tidy : w.arena.Tidy) (ready : Ready r K.container w)
    (clears : (w.renderers.getD r Renderer.default).clearOnUpdate = true) (other : s ≠ fragmentTag) :
    ∀ n ws v w', renderSeries fuel r K.id n w = some (ws ++ [v], w') →
      (∀ u ∈ ws ++ [v], ∀ c w₂, (callRender fuel K.render K.props K.children).run u = .ok c w₂ →
        c.asNode?.bind split = some (parts u)) →
      (∀ u ∈ ws ++ [v], (parts u).tag = .str s ∧ ∃ ms k, SteadyAll prog (parts u).children ms k) →
      (ws ++ [v]).IsChain (fun a b => (parts a).props.Restyles (parts b).props) →
      (∀ ms k, SteadyAll prog (parts v).children ms k →
        Shown r K w.doc.elements.size w' s ((parts v).props.style .fresh) ms k) ∧
      w'.program = prog ∧ w'.arena.Tidy ∧ Ready r w.doc.elements.size w' ∧ w'.options = w.options := by
  intro n
  induction n with
  | zero =>
    intro ws v w' series outputs hosts _
    rw [renderSeries] at series
    split at series
    · rename_i w₁ run
      obtain ⟨listed, rfl⟩ := Prod.mk.injEq _ _ _ _ ▸ Option.some.inj series
      obtain ⟨rfl, last⟩ := List.append_inj' (listed.symm.trans (List.nil_append [w]).symm) rfl
      have hv : w = v := (List.singleton_inj.1 last).symm
      subst hv
      have outputs₀ := outputs w (by simp)
      obtain ⟨tag₀, ms₀, k₀, all₀⟩ := hosts w (by simp)
      have first : ∀ (ms : List Node) (k : Nat), SteadyAll prog (parts w).children ms k →
          Shown r K w.doc.elements.size w₁ s ((parts w).props.style .fresh) ms k ∧ w₁.program = prog :=
        fun ms k all => firstPhase_shown program found empty bare tidy ready outputs₀ tag₀ other all run
      have arena : w.arena.Later w₁.arena ∧ w₁.arena.Tidy :=
        ok_of_triple ((arenaKept (fuel + 1)).renderPhase w.arena r K.id true) ⟨.refl ready.numbered, tidy⟩ run
      obtain ⟨C, face, -⟩ := (first ms₀ k₀ all₀).1.face
      exact ⟨fun ms k all => (first ms k all).1, (first ms₀ k₀ all₀).2, arena.2,
        ⟨arena.1.numbered, arena.1.size ▸ ready.renderer, Host.Document.lt_of_face face⟩,
        ok_of_triple ((optionsKept (fuel + 1)).renderPhase w.options r K.id true) rfl run⟩
    · cases series
  | succ n ih =>
    intro ws v w' series outputs hosts chain
    rw [renderSeries] at series
    split at series
    · cases series
    · rename_i ws₀ w₀ earlier
      split at series
      · rename_i w₁ run
        obtain ⟨listed, rfl⟩ := Prod.mk.injEq _ _ _ _ ▸ Option.some.inj series
        obtain ⟨rfl, last⟩ := List.append_inj' listed rfl
        have hv : w₀ = v := List.singleton_inj.1 last
        subst hv
        -- The renders before the last form a series of their own, ending at some world.
        obtain ⟨ws', v', rfl⟩ : ∃ ws' v', ws₀ = ws' ++ [v'] := by
          rcases List.eq_nil_or_concat ws₀ with none | ⟨ws', v', rfl⟩
          · exact absurd none (renderSeries_ne_nil earlier)
          · exact ⟨ws', v', List.concat_eq_append⟩
        have restyles : (parts v').props.Restyles (parts w₀).props :=
          (List.isChain_append.1 chain).2.2 v' (by simp) w₀ (by simp)
        obtain ⟨shown₀, program₀, tidy₀, ready₀, options₀⟩ := ih ws' v' w₀ earlier
          (fun u hu => outputs u (List.mem_append_left _ hu)) (fun u hu => hosts u (List.mem_append_left _ hu))
          chain.left_of_append
        obtain ⟨-, ms₀, k₀, all₀⟩ := hosts v' (by simp)
        obtain ⟨tag, ms₁, k₁, all₁⟩ := hosts w₀ (by simp)
        have next : ∀ (ms : List Node) (k : Nat), SteadyAll prog (parts w₀).children ms k →
            Shown r K w.doc.elements.size w₁ s ((parts w₀).props.style .fresh) ms k ∧ w₁.program = prog := by
          intro ms k all
          rw [← restyles.style_eq]
          exact rerender_shown program₀ (shown₀ ms₀ k₀ all₀) ((clearOnUpdate_of_options options₀ r).trans clears)
            tidy₀ ready₀ (outputs w₀ (by simp)) tag other all run
        have arena : w₀.arena.Later w₁.arena ∧ w₁.arena.Tidy :=
          ok_of_triple ((arenaKept (fuel + 2)).update w₀.arena r K.id) ⟨.refl ready₀.numbered, tidy₀⟩ run
        obtain ⟨C, face, -⟩ := (next ms₁ k₁ all₁).1.face
        exact ⟨fun ms k all => (next ms k all).1, (next ms₁ k₁ all₁).2, arena.2,
          ⟨arena.1.numbered, arena.1.size ▸ ready₀.renderer, Host.Document.lt_of_face face⟩,
          (ok_of_triple ((optionsKept (fuel + 2)).update w₀.options r K.id) rfl run).trans options₀⟩
      · cases series

/-- Registering a mount point with no owner adds it last, counted; no number is handed out. -/
theorem register_none_leaves (r : Nat) (P : MountPoint) (w : World) (present : r < w.renderers.size) :
    ((register r P none).leaves w).scene.points r = w.scene.points r ++ [P] ∧
      ((register r P none).leaves w).scene.next r = w.scene.next r := by
  let added : World := { w with renderers := w.renderers.modify r (fun rd => { rd with points := rd.points ++ [P] }) }
  have step : (register r P none).leaves w = (count r (fun m => { m with mountPoints := m.mountPoints + 1 })).leaves added :=
    rfl
  have points : added.scene.points r = w.scene.points r ++ [P] := by
    show (⟨w.doc, w.renderers.modify r _⟩ : Scene).points r = _
    rw [Scene.points_modify, if_pos ⟨rfl, present⟩]
    rfl
  have next : added.scene.next r = w.scene.next r := by
    show (⟨w.doc, w.renderers.modify r _⟩ : Scene).next r = _
    rw [Scene.next_modify, if_pos ⟨rfl, present⟩]
    rfl
  rw [step, points_leaves_count, next_leaves_count]
  exact ⟨points, next⟩

/-- Mounting a host node whose rebuild is itself, with steady children, at the top: a new mount point,
numbered next, is shown through a new element, made first, with the style the node's props leave on
a fresh element. -/
theorem mount_shown {prog : Program} {fuel rf body : Nat} {c : Value} {items : List Value} {parts : Parts}
    {s : String} {ms : List Node} {k : Nat} {wf wf' : World} (program : wf.program = prog) (tidy : wf.arena.Tidy)
    (ready : Ready rf body wf) (hv : c.asNode? = some items) (hs : split items = some parts)
    (ht : parts.tag = .str s) (other : s ≠ fragmentTag)
    (rebuilt : parts.props = none → parts.children.head?.bind Value.asProps? = none)
    (all : SteadyAll prog parts.children ms k) (run : (mount (fuel + 2) rf c body none).run wf = .ok () wf') :
    Shown rf ⟨wf.scene.next rf + 1, s, body, none, .host s, parts.props, parts.children, false, []⟩
      wf.doc.elements.size wf' s (parts.props.style .fresh) ms k := by
  rw [mount_str_eq hv hs ht] at run
  obtain ⟨id, w₁, reserved, run⟩ := bind_ok run
  obtain ⟨later₁, after, vacant⟩ := ok_of_noThrow (reserve_later wf.scene rf) (.refl ready.numbered) reserved
  obtain ⟨arena₁, after₁, -, vacant₁⟩ :=
    ok_of_noThrow (reserve_arena wf.arena rf none) ⟨⟨.refl ready.numbered, tidy⟩, by simp⟩ reserved
  rw [reserve_run] at reserved
  cases reserved
  obtain ⟨_, w₂, registered, run⟩ := bind_ok run
  let P : MountPoint := ⟨wf.scene.next rf + 1, s, body, none, .host s, parts.props, parts.children, false, []⟩
  obtain ⟨later₂, awaits₂⟩ := ok_of_noThrow (register_later wf.scene rf P none after rfl) ⟨later₁, vacant⟩ registered
  have arena₂ := ok_of_noThrow (register_arena wf.arena rf P none after₁ (by simp) rfl) ⟨arena₁, vacant₁⟩ registered
  rw [register_run_leaves] at registered
  cases registered
  let w₁ : World := { wf with renderers := wf.renderers.modify rf fun rd => { rd with next := rd.next + 1 } }
  obtain ⟨points₂, -⟩ := register_none_leaves rf P w₁ (by simpa [w₁] using ready.renderer)
  rw [points_reserved] at points₂
  -- The new mount point is found last: every live one is numbered below it.
  have found : (((register rf P none).leaves w₁).scene.points rf).find? (·.id == P.id) = some P := by
    rw [points₂, List.find?_append, List.find?_eq_none.2 fun q hq => ?_]
    · simp
    · have := ready.numbered rf q hq
      simp only [beq_iff_eq, P]
      omega
  -- Its host render function rebuilds the node, which splits as it did.
  have outputs : ∀ out w₃, (callRender fuel P.render P.props P.children).run ((register rf P none).leaves w₁) =
      .ok out w₃ → out.asNode?.bind split = some parts := by
    intro out w₃ rendered
    cases fuel with
    | zero =>
      rw [callRender] at rendered
      cases rendered
    | succ m =>
      rw [show P.render = .host s from rfl, callRender_host] at rendered
      cases rendered
      obtain ⟨tag, props, children⟩ := parts
      cases ht
      exact split_hostItems_of_rebuilt rebuilt
  have shown := (firstPhase_shown ((program_leaves_register rf P _ w₁).trans program) found awaits₂.2 rfl
    arena₂.2 (ready.of_later later₂) outputs ht other all run).1
  rwa [doc_leaves_register] at shown

end Run

end ViewEngine
