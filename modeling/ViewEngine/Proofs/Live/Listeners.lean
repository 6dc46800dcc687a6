import Mathlib
import ViewEngine.Proofs.Engine.Calls
import ViewEngine.Proofs.Engine.Options

/-! Listeners come from first render phases. A prop's listener is added only while the first
render phase of a mount point applies its output, on the element that phase created; a re-render
passes the first flag off, so whatever it renders it adds no listener, not even to an element it
creates itself. So every engine function, at every fuel and whether it finishes or stops, keeps the
listeners of every element that was there when it started, and puts listeners on new elements only
for mount points numbered after it started. After a re-render, a dispatched event, a trigger call
or a bus delivery, every listener of a mount point that was live before is one it already had. -/

namespace ViewEngine

open Host Std.Do

set_option mvcgen.warning false

namespace Host.Document

variable {L : Type}

/-- A place past the end of the store has no listeners. -/
theorem listenersOf_of_size_le {d : Document L} {x : Nat} (past : d.elements.size ≤ x) (ev : String) :
    d.listenersOf x ev = [] := by
  simp [listenersOf, get?, Array.getElem?_eq_none past]

/-- A change of a document that adds no listener: no place is lost, and every place keeps the
listeners of every event. -/
structure Quiet (d d' : Document L) : Prop where
  size_le : d.elements.size ≤ d'.elements.size
  same : ∀ x ev, d'.listenersOf x ev = d.listenersOf x ev

namespace Quiet

theorem refl (d : Document L) : d.Quiet d := ⟨Nat.le_refl _, fun _ _ => rfl⟩

theorem trans {d₁ d₂ d₃ : Document L} (h₁ : d₁.Quiet d₂) (h₂ : d₂.Quiet d₃) : d₁.Quiet d₃ :=
  ⟨Nat.le_trans h₁.size_le h₂.size_le, fun x ev => (h₂.same x ev).trans (h₁.same x ev)⟩

/-- Changing an element without touching its listeners adds none. -/
theorem of_modify (d : Document L) (id : Nat) {f : Element L → Element L}
    (keeps : ∀ e, (f e).listeners = e.listeners) : d.Quiet (d.modify id f) := by
  refine ⟨(size_modify d id f).ge, fun x ev => ?_⟩
  simp only [listenersOf, get?_modify]
  by_cases same : id = x
  · cases d.get? x <;> simp [same, keeps]
  · simp [same]

/-- A created element has no listeners, and the place it takes had none. -/
theorem create (d : Document L) (tag : String) : d.Quiet (d.create tag).1 := by
  refine ⟨by simp, fun x ev => ?_⟩
  simp only [listenersOf, get?_create]
  by_cases past : x = d.elements.size
  · subst past
    have absent : d.get? d.elements.size = none := by simp [get?]
    simp [absent, Element.fresh, Dict.empty, Dict.get?]
  · simp [past]

theorem appendChild (d : Document L) (parent child : Nat) : d.Quiet (d.appendChild parent child) :=
  (of_modify d child (fun _ => by rfl)).trans (of_modify _ parent (fun _ => by rfl))

theorem appendText (d : Document L) (id : Nat) (data : String) : d.Quiet (d.appendText id data) :=
  of_modify d id (fun _ => rfl)

theorem removeChildren (d : Document L) (id : Nat) : d.Quiet (d.removeChildren id) := by
  unfold Document.removeChildren
  split
  · exact refl d
  · -- The children lose their parent one after another, then the element its children.
    have forget : ∀ (ids : List Nat) (start : Document L),
        start.Quiet (ids.foldl (fun d c => d.modify c (fun k => { k with parent := none })) start) := by
      intro ids
      induction ids with
      | nil => exact fun start => refl start
      | cons c rest ih =>
        intro start
        rw [List.foldl_cons]
        exact (of_modify start c (fun _ => by rfl)).trans (ih _)
    exact (forget _ d).trans (of_modify _ id (fun _ => by rfl))

theorem setAttribute (d : Document L) (id : Nat) (name value : String) :
    d.Quiet (d.setAttribute id name value) := by
  unfold Document.setAttribute
  split
  · exact of_modify d id (fun _ => rfl)
  · exact of_modify d id (fun _ => rfl)

end Quiet

/-- Adding a listener puts it last among the listeners of its event on its element, and changes no
other list. -/
theorem listenersOf_addListener (d : Document L) (id : Nat) (event : String) (l : L) (x : Nat)
    (ev : String) :
    (d.addListener id event l).listenersOf x ev =
      if id = x ∧ event = ev ∧ x < d.elements.size then d.listenersOf x ev ++ [l] else d.listenersOf x ev := by
  simp only [addListener, listenersOf, get?_modify]
  by_cases same : id = x
  · subst same
    by_cases inside : id < d.elements.size
    · have found : d.get? id = some d.elements[id] := by simp [get?, inside]
      by_cases sameEvent : event = ev
      · subst sameEvent
        simp [found, inside]
      · simp [found, sameEvent, Dict.get?_insert_other _ _ _ _ (Ne.symm sameEvent)]
    · have absent : d.get? id = none := by simp [get?, Array.getElem?_eq_none (Nat.le_of_not_lt inside)]
      simp [absent, inside]
  · simp [same]

end Host.Document

/-- The marks of a prop change classes, attributes and properties, never listeners. -/
theorem Attr.quiet_mark {L : Type} (p : Attr) (el : Nat) (d : Document L) : d.Quiet (p.mark el d) :=
  Attr.mark_rel Document.Quiet .refl (fun h₁ h₂ => h₁.trans h₂)
    (fun d el _ => Document.Quiet.of_modify d el (fun e => by split <;> rfl))
    (fun d el _ _ => Document.Quiet.of_modify d el (fun _ => rfl))
    (fun d el _ _ => Document.Quiet.of_modify d el (fun _ => rfl))
    (fun d el _ => Document.Quiet.of_modify d el (fun _ => rfl))
    Document.Quiet.setAttribute p el d

/-- The parts of a world that listeners and mount points live in: the document and the renderers. -/
structure Scene where
  /-- The host document. -/
  doc : Document Listener
  /-- The renderers. -/
  renderers : Array Renderer

/-- The scene of a world. -/
def World.scene (w : World) : Scene := ⟨w.doc, w.renderers⟩

/-- A world built with another's document and renderers has its scene. -/
@[simp, grind =] theorem World.scene_mk (w : World) (program states capsets timers bus busDisposers instances
    triggers trace budget) :
    (World.mk program w.doc w.renderers states capsets timers bus busDisposers instances triggers trace
      budget).scene = w.scene := rfl

namespace Scene

/-- The mount points of a renderer. -/
def points (s : Scene) (r : Nat) : List MountPoint := (s.renderers.getD r Renderer.default).points

/-- The last mount point number a renderer handed out. -/
def next (s : Scene) (r : Nat) : Nat := (s.renderers.getD r Renderer.default).next

/-- Every live mount point's number has been handed out. -/
def Numbered (s : Scene) : Prop := ∀ r, ∀ p ∈ s.points r, p.id ≤ s.next r

/-- No live mount point of a renderer has a number, and the renderer hands out only later ones. -/
def Vacant (s : Scene) (r id : Nat) : Prop :=
  (s.renderers.size ≤ r ∨ id ≤ s.next r) ∧ ∀ p ∈ s.points r, p.id ≠ id

/-- A mount point numbered after an earlier scene has no element yet. -/
def Awaits (s₀ s : Scene) (r id : Nat) : Prop :=
  s₀.next r < id ∧ ∀ p ∈ s.points r, p.id = id → p.element = none

/-- A renderer that is not there has no mount points. -/
theorem points_of_size_le {s : Scene} {r : Nat} (absent : s.renderers.size ≤ r) : s.points r = [] := by
  simp [points, Array.getD_eq_getD_getElem?, Array.getElem?_eq_none absent, Renderer.default]

/-- A scene of one renderer is numbered when each of its mount points has a number it handed out. -/
theorem numbered_one (d : Document Listener) (rd : Renderer) (fits : ∀ p ∈ rd.points, p.id ≤ rd.next) :
    (⟨d, #[rd]⟩ : Scene).Numbered := by
  intro r p mem
  cases r with
  | zero => exact fits p mem
  | succ r =>
    -- No renderer stands past the first.
    have absent : (⟨d, #[rd]⟩ : Scene).renderers.size ≤ r + 1 := by simp
    simp [points_of_size_le absent] at mem

/-- Changing one renderer changes its mount points only, and only when it is there. -/
theorem points_modify (d : Document Listener) (rs : Array Renderer) (r r' : Nat) (f : Renderer → Renderer) :
    (⟨d, rs.modify r f⟩ : Scene).points r' =
      if r = r' ∧ r' < rs.size then (f (rs.getD r' Renderer.default)).points else (⟨d, rs⟩ : Scene).points r' := by
  simp only [points, Array.getD_modify]
  split <;> rfl

theorem next_modify (d : Document Listener) (rs : Array Renderer) (r r' : Nat) (f : Renderer → Renderer) :
    (⟨d, rs.modify r f⟩ : Scene).next r' =
      if r = r' ∧ r' < rs.size then (f (rs.getD r' Renderer.default)).next else (⟨d, rs⟩ : Scene).next r' := by
  simp only [next, Array.getD_modify]
  split <;> rfl

end Scene

/-- A listener of a mount point numbered after a scene. -/
def Listener.After (s : Scene) : Listener → Prop
  | .mounted r id _ => s.next r < id
  | .recorder _ _ => False

theorem Listener.After.mono {s s' : Scene} (le : ∀ r, s.next r ≤ s'.next r) {l : Listener} (h : l.After s') :
    l.After s := by
  cases l with
  | mounted r id _ => exact Nat.lt_of_le_of_lt (le r) h
  | recorder => exact h.elim

/-- A scene later than another: numbers are handed out onward, and every live mount point was live
before or has a number handed out since; the elements that were there keep their listeners, and
every listener of a new element belongs to a mount point numbered since. -/
structure Scene.Later (s s' : Scene) : Prop where
  numbered : s'.Numbered
  size : s'.renderers.size = s.renderers.size
  next_le : ∀ r, s.next r ≤ s'.next r
  known : ∀ r, ∀ p ∈ s'.points r, (∃ q ∈ s.points r, q.id = p.id) ∨ s.next r < p.id
  elements : s.doc.elements.size ≤ s'.doc.elements.size
  kept : ∀ x < s.doc.elements.size, ∀ ev, s'.doc.listenersOf x ev = s.doc.listenersOf x ev
  newer : ∀ x ev, s.doc.elements.size ≤ x → ∀ l ∈ s'.doc.listenersOf x ev, l.After s

namespace Scene.Later

variable {s₀ s s' : Scene}

theorem refl (numbered : s.Numbered) : s.Later s where
  numbered := numbered
  size := rfl
  next_le _ := Nat.le_refl _
  known _ p hp := .inl ⟨p, hp, rfl⟩
  elements := Nat.le_refl _
  kept _ _ _ := rfl
  newer x ev past l hl := by simp [Document.listenersOf_of_size_le past] at hl

theorem trans (h₁ : s₀.Later s) (h₂ : s.Later s') : s₀.Later s' where
  numbered := h₂.numbered
  size := h₂.size.trans h₁.size
  next_le r := Nat.le_trans (h₁.next_le r) (h₂.next_le r)
  known r p hp := by
    rcases h₂.known r p hp with ⟨q, hq, same⟩ | after
    · rcases h₁.known r q hq with old | after
      · exact .inl (same ▸ old)
      · exact .inr (same ▸ after)
    · exact .inr (Nat.lt_of_le_of_lt (h₁.next_le r) after)
  elements := Nat.le_trans h₁.elements h₂.elements
  kept x hx ev := (h₂.kept x (Nat.lt_of_lt_of_le hx h₁.elements) ev).trans (h₁.kept x hx ev)
  newer x ev past l hl := by
    -- An element of the middle scene had its listeners then; a newer one got them since.
    by_cases inside : x < s.doc.elements.size
    · rw [h₂.kept x inside ev] at hl
      exact h₁.newer x ev past l hl
    · exact (h₂.newer x ev (Nat.le_of_not_lt inside) l hl).mono h₁.next_le

/-- A vacant number stays vacant: the numbers handed out since are larger. -/
theorem vacant (h : s.Later s') {r id : Nat} (v : s.Vacant r id) : s'.Vacant r id := by
  obtain ⟨room, unused⟩ := v
  refine ⟨?_, fun p hp same => ?_⟩
  · rcases room with absent | le
    · exact .inl (h.size ▸ absent)
    · exact .inr (Nat.le_trans le (h.next_le r))
  · rcases h.known r p hp with ⟨q, hq, sameq⟩ | after
    · exact unused q hq (sameq.trans same)
    · rcases room with absent | le
      · rw [Scene.points_of_size_le (h.size ▸ absent)] at hp
        exact List.not_mem_nil hp
      · omega

/-- A change of the document that adds no listener keeps a scene later. -/
theorem quiet (h : s₀.Later s) {d : Document Listener} (q : s.doc.Quiet d) : s₀.Later ⟨d, s.renderers⟩ where
  numbered := h.numbered
  size := h.size
  next_le := h.next_le
  known := h.known
  elements := Nat.le_trans h.elements q.size_le
  kept x hx ev := (q.same x ev).trans (h.kept x hx ev)
  newer x ev past l hl := h.newer x ev past l (q.same x ev ▸ hl)

/-- A listener added to an element made since the earlier scene, for a mount point numbered since,
keeps a scene later. -/
theorem listen (h : s₀.Later s) {el r id : Nat} (fresh : s₀.doc.elements.size ≤ el) (after : s₀.next r < id)
    (event : String) (handler : Routine) :
    s₀.Later ⟨s.doc.addListener el event (.mounted r id handler), s.renderers⟩ where
  numbered := h.numbered
  size := h.size
  next_le := h.next_le
  known := h.known
  elements := by
    rw [(Document.SameTree.addListener s.doc el event _).size]
    exact h.elements
  kept x hx ev := by
    have other : el ≠ x := by omega
    simp only [Document.listenersOf_addListener, other, false_and, if_false]
    exact h.kept x hx ev
  newer x ev past l hl := by
    simp only [Document.listenersOf_addListener] at hl
    split at hl
    · rcases List.mem_append.1 hl with old | added
      · exact h.newer x ev past l old
      · rw [List.mem_singleton.1 added]
        exact after
    · exact h.newer x ev past l hl

/-- Changing a renderer so that its numbers go on, and each of its mount points has the number of
one it had, keeps a scene later. -/
theorem renderer (h : s₀.Later s) (r : Nat) (f : Renderer → Renderer)
    (next : (s.renderers.getD r Renderer.default).next ≤ (f (s.renderers.getD r Renderer.default)).next)
    (ids : ∀ p ∈ (f (s.renderers.getD r Renderer.default)).points, ∃ q ∈ s.points r, q.id = p.id) :
    s₀.Later ⟨s.doc, s.renderers.modify r f⟩ where
  numbered r' p hp := by
    rw [Scene.points_modify] at hp
    rw [Scene.next_modify]
    split at hp
    · obtain ⟨same, present⟩ := ‹r = r' ∧ _›
      subst same
      obtain ⟨q, hq, sameq⟩ := ids p hp
      rw [if_pos ⟨rfl, present⟩]
      exact sameq ▸ Nat.le_trans (h.numbered r q hq) next
    · rw [if_neg ‹_›]
      exact h.numbered r' p hp
  size := (Array.size_modify ..).trans h.size
  next_le r' := by
    rw [Scene.next_modify]
    split
    · obtain ⟨same, -⟩ := ‹r = r' ∧ _›
      subst same
      exact Nat.le_trans (h.next_le r) next
    · exact h.next_le r'
  known r' p hp := by
    rw [Scene.points_modify] at hp
    split at hp
    · obtain ⟨same, -⟩ := ‹r = r' ∧ _›
      subst same
      obtain ⟨q, hq, sameq⟩ := ids p hp
      exact sameq ▸ h.known r q hq
    · exact h.known r' p hp
  elements := h.elements
  kept := h.kept
  newer := h.newer

/-- Adding a mount point numbered since the earlier scene, whose number is handed out, keeps a scene
later. -/
theorem addPoint (h : s₀.Later s) {r : Nat} {p : MountPoint} (after : s₀.next r < p.id)
    (room : s.renderers.size ≤ r ∨ p.id ≤ s.next r) :
    s₀.Later ⟨s.doc, s.renderers.modify r (fun rd => { rd with points := rd.points ++ [p] })⟩ where
  numbered r' q hq := by
    rw [Scene.points_modify] at hq
    rw [Scene.next_modify]
    split at hq
    · obtain ⟨same, present⟩ := ‹r = r' ∧ _›
      subst same
      rw [if_pos ⟨rfl, present⟩]
      rcases List.mem_append.1 hq with old | added
      · exact h.numbered r q old
      · rw [List.mem_singleton.1 added]
        exact room.resolve_left (Nat.not_le_of_lt present)
    · rw [if_neg ‹_›]
      exact h.numbered r' q hq
  size := (Array.size_modify ..).trans h.size
  next_le r' := by
    rw [Scene.next_modify]
    split
    · exact h.next_le r'
    · exact h.next_le r'
  known r' q hq := by
    rw [Scene.points_modify] at hq
    split at hq
    · obtain ⟨same, -⟩ := ‹r = r' ∧ _›
      subst same
      rcases List.mem_append.1 hq with old | added
      · exact h.known r q old
      · rw [List.mem_singleton.1 added]
        exact .inr after
    · exact h.known r' q hq
  elements := h.elements
  kept := h.kept
  newer := h.newer

end Scene.Later

/-- Handing out the next number of a renderer keeps a scene later; the number comes after the
earlier scene's and is vacant. -/
theorem Scene.Later.reserve {s₀ s : Scene} (h : s₀.Later s) (r : Nat) :
    s₀.Later ⟨s.doc, s.renderers.modify r (fun rd => { rd with next := rd.next + 1 })⟩ ∧ s₀.next r < s.next r + 1 ∧
      Scene.Vacant ⟨s.doc, s.renderers.modify r (fun rd => { rd with next := rd.next + 1 })⟩ r (s.next r + 1) := by
  refine ⟨h.renderer r _ (Nat.le_succ _) (fun p hp => ⟨p, hp, rfl⟩), Nat.lt_succ_of_le (h.next_le r), ?_, ?_⟩
  · by_cases present : r < s.renderers.size
    · right
      rw [Scene.next_modify, if_pos ⟨rfl, present⟩]
      exact Nat.le_refl _
    · left
      simpa using Nat.le_of_not_lt present
  · -- The mount points are the old ones, all numbered up to the old last number.
    intro p hp same
    have old : p ∈ s.points r := by
      rw [Scene.points_modify] at hp
      split at hp
      · exact hp
      · exact hp
    have := h.numbered r p old
    omega

/-- A mount point added with a vacant number and no element is the only one of its number, and
awaits its element. -/
theorem Scene.Vacant.awaits_addPoint {s₀ s : Scene} {r : Nat} {p : MountPoint} (v : s.Vacant r p.id)
    (after : s₀.next r < p.id) (elt : p.element = none) :
    Scene.Awaits s₀ ⟨s.doc, s.renderers.modify r (fun rd => { rd with points := rd.points ++ [p] })⟩ r p.id := by
  refine ⟨after, fun q hq same => ?_⟩
  rw [Scene.points_modify] at hq
  split at hq
  · rcases List.mem_append.1 hq with old | added
    · exact absurd same (v.2 q old)
    · rw [List.mem_singleton.1 added]
      exact elt
  · exact absurd same (v.2 q hq)

/-- A renderer change after which each mount point has the number and the element of one before
keeps a mount point awaiting its element. -/
theorem Scene.Awaits.renderer {s₀ s : Scene} {r id : Nat} (a : Scene.Awaits s₀ s r id) (r' : Nat)
    (f : Renderer → Renderer)
    (same : ∀ p ∈ (f (s.renderers.getD r' Renderer.default)).points,
      ∃ q ∈ s.points r', q.id = p.id ∧ q.element = p.element) :
    Scene.Awaits s₀ ⟨s.doc, s.renderers.modify r' f⟩ r id := by
  refine ⟨a.1, fun p hp pid => ?_⟩
  rw [Scene.points_modify] at hp
  split at hp
  · obtain ⟨rfl, -⟩ := ‹r' = r ∧ _›
    obtain ⟨q, hq, qid, qelt⟩ := same p hp
    exact qelt ▸ a.2 q hq (qid.trans pid)
  · exact a.2 p hp pid

/-- The sweep keeps some of the mount points it is given, in order. -/
theorem Run.dropPoints_sweep_sublist : ∀ (fuel : Nat) (work : List Nat) (points : List MountPoint) (n : Nat),
    (dropPoints.sweep fuel work points n).1.Sublist points
  | 0, _, _, _ => .refl _
  | _ + 1, [], _, _ => .refl _
  | fuel + 1, id :: rest, points, n => by
    simp only [dropPoints.sweep]
    split
    · exact dropPoints_sweep_sublist fuel rest points n
    · exact (dropPoints_sweep_sublist fuel _ _ _).trans List.filter_sublist

namespace Run

/-! Every step below is specified against an earlier scene `s₀`: if the world's scene is later than
`s₀` before the step, it still is after it. -/

section Primitives

variable (s₀ : Scene)

theorem note_later (n : Note) : ⦃fun w => ⌜s₀.Later w.scene⌝⦄ note n ⦃⇓ _ w => ⌜s₀.Later w.scene⌝⦄ := by
  mvcgen [note]

theorem mark_later (text : String) : ⦃fun w => ⌜s₀.Later w.scene⌝⦄ mark text ⦃⇓ _ w => ⌜s₀.Later w.scene⌝⦄ := by
  have noted := note_later s₀
  mvcgen [mark, noted]

theorem spend_later :
    ⦃fun w => ⌜s₀.Later w.scene⌝⦄ spend
    ⦃post⟨fun _ w => ⌜s₀.Later w.scene⌝, fun _ w => ⌜s₀.Later w.scene⌝⟩⦄ := by
  mvcgen [spend]

theorem renderer_later (r : Nat) :
    ⦃fun w => ⌜s₀.Later w.scene⌝⦄ renderer r
    ⦃⇓ rd w => ⌜s₀.Later w.scene ∧ rd = w.renderers.getD r Renderer.default⌝⦄ := by
  mvcgen [renderer]

theorem stateRecord_later (i : Nat) :
    ⦃fun w => ⌜s₀.Later w.scene⌝⦄ stateRecord i ⦃⇓ _ w => ⌜s₀.Later w.scene⌝⦄ := by
  mvcgen [stateRecord]

theorem setState_later (i : Nat) (key : String) (x : Value) :
    ⦃fun w => ⌜s₀.Later w.scene⌝⦄ setState i key x ⦃⇓ _ w => ⌜s₀.Later w.scene⌝⦄ := by
  mvcgen [setState]

theorem capset_later (i : Nat) :
    ⦃fun w => ⌜s₀.Later w.scene⌝⦄ capset i ⦃⇓ _ w => ⌜s₀.Later w.scene⌝⦄ := by
  mvcgen [capset]

theorem inst_later (i : Nat) :
    ⦃fun w => ⌜s₀.Later w.scene⌝⦄ inst i ⦃⇓ _ w => ⌜s₀.Later w.scene⌝⦄ := by
  mvcgen [inst]

theorem typedCap_later (caps : Nat) (name : String) (t : CapType) :
    ⦃fun w => ⌜s₀.Later w.scene⌝⦄ typedCap caps name t
    ⦃post⟨fun _ w => ⌜s₀.Later w.scene⌝, fun _ w => ⌜s₀.Later w.scene⌝⟩⦄ := by
  mvcgen [typedCap, capset, capabilityFailed]

theorem callState_later (f : Value) (init : Option (List (String × Value))) :
    ⦃fun w => ⌜s₀.Later w.scene⌝⦄ callState f init ⦃⇓ _ w => ⌜s₀.Later w.scene⌝⦄ := by
  mvcgen [callState, newState]

theorem callLog_later (f : Value) (args : List Value) :
    ⦃fun w => ⌜s₀.Later w.scene⌝⦄ callLog f args ⦃⇓ _ w => ⌜s₀.Later w.scene⌝⦄ := by
  have noted := note_later s₀
  mvcgen [callLog, noted]

theorem callTimer_later (f : Value) :
    ⦃fun w => ⌜s₀.Later w.scene⌝⦄ callTimer f ⦃⇓ _ w => ⌜s₀.Later w.scene⌝⦄ := by
  mvcgen [callTimer, startTimer]

theorem callClear_later (f : Value) (id : Nat) :
    ⦃fun w => ⌜s₀.Later w.scene⌝⦄ callClear f id ⦃⇓ _ w => ⌜s₀.Later w.scene⌝⦄ := by
  mvcgen [callClear, stopTimer]

theorem callOn_later (f : Value) (topic : String) (sub : Subscriber) :
    ⦃fun w => ⌜s₀.Later w.scene⌝⦄ callOn f topic sub ⦃⇓ _ w => ⌜s₀.Later w.scene⌝⦄ := by
  have marked := mark_later s₀
  mvcgen [callOn, marked]

theorem dispose_later (d : Disposer) :
    ⦃fun w => ⌜s₀.Later w.scene⌝⦄ dispose d ⦃⇓ _ w => ⌜s₀.Later w.scene⌝⦄ := by
  mvcgen [dispose]

theorem actionContext_later (i : Nat) :
    ⦃fun w => ⌜s₀.Later w.scene⌝⦄ actionContext i ⦃⇓ _ w => ⌜s₀.Later w.scene⌝⦄ := by
  mvcgen [actionContext, inst, stateRecord]

theorem modifyInst_later (i : Nat) (f : Instance → Instance) :
    ⦃fun w => ⌜s₀.Later w.scene⌝⦄ modifyInst i f ⦃⇓ _ w => ⌜s₀.Later w.scene⌝⦄ := by
  mvcgen [modifyInst]

theorem newInstance_later (script : Nat) (name : String) (caps : Nat) (props : Props) :
    ⦃fun w => ⌜s₀.Later w.scene⌝⦄ newInstance script name caps props ⦃⇓ _ w => ⌜s₀.Later w.scene⌝⦄ := by
  mvcgen [newInstance]

theorem modifyDoc_later (f : Document Listener → Document Listener) (quiet : ∀ d : Document Listener, d.Quiet (f d)) :
    ⦃fun w => ⌜s₀.Later w.scene⌝⦄ modifyDoc f ⦃⇓ _ w => ⌜s₀.Later w.scene⌝⦄ := by
  mvcgen [modifyDoc] with exact (‹s₀.Later _›).quiet (quiet _)

/-- A created element comes after every element of the earlier scene. -/
theorem createElement_later (tag : String) :
    ⦃fun w => ⌜s₀.Later w.scene⌝⦄ createElement tag
    ⦃⇓ el w => ⌜s₀.Later w.scene ∧ s₀.doc.elements.size ≤ el⌝⦄ := by
  mvcgen [createElement]
  rename_i w h
  exact ⟨h.quiet (Document.Quiet.create w.doc tag), h.elements⟩

theorem count_later (r : Nat) (f : Metrics → Metrics) :
    ⦃fun w => ⌜s₀.Later w.scene⌝⦄ count r f ⦃⇓ _ w => ⌜s₀.Later w.scene⌝⦄ := by
  mvcgen [count, modifyRenderer] with
    exact (‹s₀.Later _›).renderer r (fun rd => { rd with metrics := rd.metrics.map f }) (Nat.le_refl _)
      (fun p hp => ⟨p, hp, rfl⟩)

/-- Changing live mount points without renumbering them keeps a scene later. -/
theorem modifyPoint_later (r id : Nat) (f : MountPoint → MountPoint) (keeps : ∀ p, (f p).id = p.id) :
    ⦃fun w => ⌜s₀.Later w.scene⌝⦄ modifyPoint r id f ⦃⇓ _ w => ⌜s₀.Later w.scene⌝⦄ := by
  mvcgen [modifyPoint, modifyRenderer]
  refine (‹s₀.Later _›).renderer r
    (fun rd => { rd with points := rd.points.map (fun p => if p.id == id then f p else p) }) (Nat.le_refl _) ?_
  intro p hp
  obtain ⟨q, hq, rfl⟩ := List.mem_map.1 hp
  refine ⟨q, hq, ?_⟩
  split <;> simp [keeps]

/-- A reserved number comes after the earlier scene's last one and is vacant. -/
theorem reserve_later (r : Nat) :
    ⦃fun w => ⌜s₀.Later w.scene⌝⦄ reserve r
    ⦃⇓ id w => ⌜s₀.Later w.scene ∧ s₀.next r < id ∧ w.scene.Vacant r id⌝⦄ := by
  mvcgen [reserve, renderer, modifyRenderer] with exact (‹s₀.Later _›).reserve r

theorem dropPoints_later (r : Nat) (ids : List Nat) :
    ⦃fun w => ⌜s₀.Later w.scene⌝⦄ dropPoints r ids ⦃⇓ _ w => ⌜s₀.Later w.scene⌝⦄ := by
  mvcgen [dropPoints, renderer, modifyRenderer]
  rename_i w h fuel _
  -- The mount points kept are some of those there were.
  exact h.renderer r
    (fun rd => { rd with points := (dropPoints.sweep fuel ids (w.renderers.getD r Renderer.default).points 0).1 })
    (Nat.le_refl _) (fun p hp => ⟨p, (dropPoints_sweep_sublist _ _ _ _).subset hp, rfl⟩)

theorem addPoint_later (r : Nat) (p : MountPoint) (after : s₀.next r < p.id) (elt : p.element = none) :
    ⦃fun w => ⌜s₀.Later w.scene ∧ w.scene.Vacant r p.id⌝⦄ addPoint r p
    ⦃⇓ _ w => ⌜s₀.Later w.scene ∧ Scene.Awaits s₀ w.scene r p.id⌝⦄ := by
  mvcgen [addPoint, modifyRenderer]
  obtain ⟨h, v⟩ := ‹s₀.Later _ ∧ _›
  exact ⟨h.addPoint after v.1, v.awaits_addPoint after elt⟩

/-- Counting keeps every mount point as it is. -/
theorem count_awaits (r : Nat) (f : Metrics → Metrics) (r' id : Nat) :
    ⦃fun w => ⌜s₀.Later w.scene ∧ Scene.Awaits s₀ w.scene r' id⌝⦄ count r f
    ⦃⇓ _ w => ⌜s₀.Later w.scene ∧ Scene.Awaits s₀ w.scene r' id⌝⦄ := by
  mvcgen [count, modifyRenderer]
  obtain ⟨h, a⟩ := ‹s₀.Later _ ∧ _›
  exact ⟨h.renderer r (fun rd => { rd with metrics := rd.metrics.map f }) (Nat.le_refl _) (fun p hp => ⟨p, hp, rfl⟩),
    a.renderer r (fun rd => { rd with metrics := rd.metrics.map f }) (fun p hp => ⟨p, hp, rfl, rfl⟩)⟩

/-- Changing live mount points without renumbering them or touching their elements keeps a mount
point awaiting its element, when it does. -/
theorem modifyPoint_awaits (r id : Nat) (f : MountPoint → MountPoint) (keeps : ∀ p, (f p).id = p.id)
    (elt : ∀ p, (f p).element = p.element) (first : Bool) (r' id' : Nat) :
    ⦃fun w => ⌜s₀.Later w.scene ∧ (first = true → Scene.Awaits s₀ w.scene r' id')⌝⦄ modifyPoint r id f
    ⦃⇓ _ w => ⌜s₀.Later w.scene ∧ (first = true → Scene.Awaits s₀ w.scene r' id')⌝⦄ := by
  mvcgen [modifyPoint, modifyRenderer]
  obtain ⟨h, a⟩ := ‹s₀.Later _ ∧ _›
  let g : MountPoint → MountPoint := fun p => if p.id == id then f p else p
  have same : ∀ p, (g p).id = p.id ∧ (g p).element = p.element := by
    intro p
    simp only [g]
    split
    · exact ⟨keeps p, elt p⟩
    · exact ⟨rfl, rfl⟩
  refine ⟨h.renderer r (fun rd => { rd with points := rd.points.map g }) (Nat.le_refl _) (fun p hp => ?_),
    fun isFirst => (a isFirst).renderer r (fun rd => { rd with points := rd.points.map g }) (fun p hp => ?_)⟩
  · obtain ⟨q, hq, rfl⟩ := List.mem_map.1 hp
    exact ⟨q, hq, (same q).1.symm⟩
  · obtain ⟨q, hq, rfl⟩ := List.mem_map.1 hp
    exact ⟨q, hq, (same q).1.symm, (same q).2.symm⟩

/-- Registering a mount point whose number is vacant and was handed out since the earlier scene,
with no element yet, leaves it awaiting its element. -/
theorem register_later (r : Nat) (p : MountPoint) (owner : Option Nat) (after : s₀.next r < p.id)
    (elt : p.element = none) :
    ⦃fun w => ⌜s₀.Later w.scene ∧ w.scene.Vacant r p.id⌝⦄ register r p owner
    ⦃⇓ _ w => ⌜s₀.Later w.scene ∧ Scene.Awaits s₀ w.scene r p.id⌝⦄ := by
  have added := addPoint_later s₀ r p after elt
  have counted := fun f => count_awaits s₀ r f r p.id
  have adopted := fun o => modifyPoint_awaits s₀ r o (fun q => { q with kids := q.kids ++ [p.id] })
    (fun _ => rfl) (fun _ => rfl) true r p.id
  mvcgen [register, added, counted, adopted]
  all_goals grind

/-- On a first pass, the mount point found by its number still has no element. -/
theorem point?_awaits (r id : Nat) (first : Bool) :
    ⦃fun w => ⌜s₀.Later w.scene ∧ (first = true → Scene.Awaits s₀ w.scene r id)⌝⦄ point? r id
    ⦃⇓ found w => ⌜s₀.Later w.scene ∧
      ∀ p, found = some p → first = true → p.element = none ∧ s₀.next r < id⌝⦄ := by
  mvcgen [point?, renderer]
  obtain ⟨later, awaits⟩ := ‹s₀.Later _ ∧ _›
  refine ⟨later, fun p found isFirst => ?_⟩
  have pid : p.id = id := by simpa using List.find?_some found
  exact ⟨(awaits isFirst).2 p (List.mem_of_find?_eq_some found) pid, (awaits isFirst).1⟩

theorem release_later (r id : Nat) :
    ⦃fun w => ⌜s₀.Later w.scene⌝⦄ release r id ⦃⇓ _ w => ⌜s₀.Later w.scene⌝⦄ := by
  have dropped := dropPoints_later s₀ r
  have emptied := modifyPoint_later s₀ r id (fun p => { p with kids := [] }) (fun _ => rfl)
  have counted := count_later s₀ r
  mvcgen [release, point?, renderer, dropped, emptied, counted]

/-- The element a host node goes into: when the mount point has none, a new one, after every
element of the earlier scene. -/
theorem hostElement_later (r id : Nat) (p : MountPoint) (tag : String) :
    ⦃fun w => ⌜s₀.Later w.scene⌝⦄ hostElement r id p tag
    ⦃⇓ el w => ⌜s₀.Later w.scene ∧ (p.element = none → s₀.doc.elements.size ≤ el)⌝⦄ := by
  have created := createElement_later s₀
  have appended := fun c el => modifyDoc_later s₀ _ (fun d => Document.Quiet.appendChild d c el)
  have placed := fun el => modifyPoint_later s₀ r id (fun p => { p with element := some el }) (fun _ => rfl)
  have emptied := fun el => modifyDoc_later s₀ _ (fun d => Document.Quiet.removeChildren d el)
  have released := release_later s₀ r id
  unfold hostElement
  split
  · mvcgen [attach, created, appended, placed]
    all_goals grind
  · mvcgen [renderer, clearElement, emptied, released]
    all_goals grind

/-- A prop's listener goes on an element made since the earlier scene, for a mount point numbered
since, and only on the first render. -/
theorem addListener_later (el : Nat) (event : String) (r id : Nat) (handler : Routine)
    (fresh : s₀.doc.elements.size ≤ el) (after : s₀.next r < id) :
    ⦃fun w => ⌜s₀.Later w.scene⌝⦄ modifyDoc (fun d => d.addListener el event (.mounted r id handler))
    ⦃⇓ _ w => ⌜s₀.Later w.scene⌝⦄ := by
  mvcgen [modifyDoc] with exact (‹s₀.Later _›).listen fresh after event handler

theorem applyProp_later (r id el : Nat) (first : Bool) (p : Attr)
    (fresh : first = true → s₀.doc.elements.size ≤ el ∧ s₀.next r < id) :
    ⦃fun w => ⌜s₀.Later w.scene⌝⦄ applyProp r id el first p
    ⦃post⟨fun _ w => ⌜s₀.Later w.scene⌝, fun _ w => ⌜s₀.Later w.scene⌝⟩⦄ := by
  have marked := modifyDoc_later s₀ _ (fun d => Attr.quiet_mark p el d)
  have listened := fun event handler (isFirst : first = true) =>
    addListener_later s₀ el event r id handler (fresh isFirst).1 (fresh isFirst).2
  mvcgen [applyProp, marked, listened, fail] with grind

theorem applyProps_later (r id el : Nat) (props : List Attr) (first : Bool)
    (fresh : first = true → s₀.doc.elements.size ≤ el ∧ s₀.next r < id) :
    ⦃fun w => ⌜s₀.Later w.scene⌝⦄ applyProps r id el props first
    ⦃post⟨fun _ w => ⌜s₀.Later w.scene⌝, fun _ w => ⌜s₀.Later w.scene⌝⟩⦄ := by
  have each := fun p => applyProp_later s₀ r id el first p fresh
  mvcgen [applyProps, each] invariants
  · post⟨fun _ w => ⌜s₀.Later w.scene⌝, fun _ w => ⌜s₀.Later w.scene⌝⟩

theorem textOf_later (r : Nat) (text : String) :
    ⦃fun w => ⌜s₀.Later w.scene⌝⦄ textOf r text ⦃⇓ _ w => ⌜s₀.Later w.scene⌝⦄ := by
  mvcgen [textOf, renderer]

theorem attrMarkup_later (r : Nat) (props : Props) :
    ⦃fun w => ⌜s₀.Later w.scene⌝⦄ attrMarkup r props ⦃⇓ _ w => ⌜s₀.Later w.scene⌝⦄ := by
  have text := textOf_later s₀ r
  mvcgen [attrMarkup, text] invariants
  · ⇓ _ w => ⌜s₀.Later w.scene⌝
  · ⇓ _ w => ⌜s₀.Later w.scene⌝

theorem compose_later (ps : List Plugin) (t : TriggerTarget) :
    ⦃fun w => ⌜s₀.Later w.scene⌝⦄ compose ps t ⦃⇓ _ w => ⌜s₀.Later w.scene⌝⦄ := by
  unfold compose
  mvcgen invariants
  · ⇓ _ w => ⌜s₀.Later w.scene⌝
  case vc1.step =>
    -- Each plugin adds capabilities to the set it is handed; none touches the scene.
    cases ‹Plugin› <;> mvcgen [composeOne]

end Primitives

/-- A render function reads states and instances and marks the trace; it never recurses. -/
theorem callRender_later (s₀ : Scene) (n : Nat) (fn : RenderFn) (props : Props) (children : List Value) :
    ⦃fun w => ⌜s₀.Later w.scene⌝⦄ callRender n fn props children
    ⦃post⟨fun _ w => ⌜s₀.Later w.scene⌝, fun _ w => ⌜s₀.Later w.scene⌝⟩⦄ := by
  have spent := spend_later s₀
  have read := inst_later s₀
  have marked := mark_later s₀
  have changed := modifyInst_later s₀
  have state := stateRecord_later s₀
  rw [callRender.eq_def]
  cases n
  · mvcgen
  · cases fn <;> mvcgen [spent, read, marked, changed, state]

/-- A step that keeps the scene later and never stops keeps it later whether it finishes or stops. -/
theorem later_of_noThrow {α : Type} {m : Run α}
    (h : ∀ s : Scene, ⦃fun w => ⌜s.Later w.scene⌝⦄ m ⦃⇓ _ w => ⌜s.Later w.scene⌝⦄) (s : Scene) :
    ⦃fun w => ⌜s.Later w.scene⌝⦄ m ⦃post⟨fun _ w => ⌜s.Later w.scene⌝, fun _ w => ⌜s.Later w.scene⌝⟩⦄ := by
  intro w hw
  have kept := h s w hw
  simp only [wp, PredTrans.apply] at kept ⊢
  split at kept
  · exact kept
  · exact kept.elim

/-- A computation that keeps the scene later than any it starts later than carries along every
property of scenes that later scenes keep. -/
theorem later_carry {α : Type} {m : Run α}
    (h : ∀ s : Scene, ⦃fun w => ⌜s.Later w.scene⌝⦄ m ⦃post⟨fun _ w => ⌜s.Later w.scene⌝, fun _ w => ⌜s.Later w.scene⌝⟩⦄)
    (s₀ : Scene) (P : Scene → Prop) (stable : ∀ {s s' : Scene}, P s → s.Later s' → P s') :
    ⦃fun w => ⌜s₀.Later w.scene ∧ P w.scene⌝⦄ m
    ⦃post⟨fun _ w => ⌜s₀.Later w.scene ∧ P w.scene⌝, fun _ w => ⌜s₀.Later w.scene ∧ P w.scene⌝⟩⦄ := by
  intro w hw
  obtain ⟨later, holds⟩ := hw
  -- Run from the world's own scene, then chain the result after the earlier scene.
  have kept := h w.scene w (Scene.Later.refl later.numbered)
  simp only [wp, PredTrans.apply] at kept ⊢
  split at kept <;> exact ⟨later.trans kept, stable holds kept⟩

/-- Every engine function, at one fuel, keeps the scene later than any earlier scene it starts
later than, whether it finishes or stops. A render phase on the first pass asks for its mount point
to be numbered since that scene and to have no element yet. -/
structure ListenersKept (n : Nat) : Prop where
  instantiate : ∀ (s₀ : Scene) c name props caps, ⦃fun w => ⌜s₀.Later w.scene⌝⦄ instantiate n c name props caps
    ⦃post⟨fun _ w => ⌜s₀.Later w.scene⌝, fun _ w => ⌜s₀.Later w.scene⌝⟩⦄
  renderString : ∀ (s₀ : Scene) r v, ⦃fun w => ⌜s₀.Later w.scene⌝⦄ renderString n r v
    ⦃post⟨fun _ w => ⌜s₀.Later w.scene⌝, fun _ w => ⌜s₀.Later w.scene⌝⟩⦄
  renderAll : ∀ (s₀ : Scene) r vs, ⦃fun w => ⌜s₀.Later w.scene⌝⦄ renderAll n r vs
    ⦃post⟨fun _ w => ⌜s₀.Later w.scene⌝, fun _ w => ⌜s₀.Later w.scene⌝⟩⦄
  mount : ∀ (s₀ : Scene) r v container owner, ⦃fun w => ⌜s₀.Later w.scene⌝⦄ mount n r v container owner
    ⦃post⟨fun _ w => ⌜s₀.Later w.scene⌝, fun _ w => ⌜s₀.Later w.scene⌝⟩⦄
  renderPhase : ∀ (s₀ : Scene) r id first,
    ⦃fun w => ⌜s₀.Later w.scene ∧ (first = true → Scene.Awaits s₀ w.scene r id)⌝⦄ renderPhase n r id first
    ⦃post⟨fun _ w => ⌜s₀.Later w.scene⌝, fun _ w => ⌜s₀.Later w.scene⌝⟩⦄
  mountChildren : ∀ (s₀ : Scene) r cs into owner, ⦃fun w => ⌜s₀.Later w.scene⌝⦄ mountChildren n r cs into owner
    ⦃post⟨fun _ w => ⌜s₀.Later w.scene⌝, fun _ w => ⌜s₀.Later w.scene⌝⟩⦄
  update : ∀ (s₀ : Scene) r id, ⦃fun w => ⌜s₀.Later w.scene⌝⦄ update n r id
    ⦃post⟨fun _ w => ⌜s₀.Later w.scene⌝, fun _ w => ⌜s₀.Later w.scene⌝⟩⦄
  fire : ∀ (s₀ : Scene) target, ⦃fun w => ⌜s₀.Later w.scene⌝⦄ fire n target
    ⦃post⟨fun _ w => ⌜s₀.Later w.scene⌝, fun _ w => ⌜s₀.Later w.scene⌝⟩⦄
  dispatch : ∀ (s₀ : Scene) ev, ⦃fun w => ⌜s₀.Later w.scene⌝⦄ dispatch n ev
    ⦃post⟨fun _ w => ⌜s₀.Later w.scene⌝, fun _ w => ⌜s₀.Later w.scene⌝⟩⦄
  listen : ∀ (s₀ : Scene) l ev, ⦃fun w => ⌜s₀.Later w.scene⌝⦄ listen n l ev
    ⦃post⟨fun _ w => ⌜s₀.Later w.scene⌝, fun _ w => ⌜s₀.Later w.scene⌝⟩⦄
  callHandler : ∀ (s₀ : Scene) h ev, ⦃fun w => ⌜s₀.Later w.scene⌝⦄ callHandler n h ev
    ⦃post⟨fun _ w => ⌜s₀.Later w.scene⌝, fun _ w => ⌜s₀.Later w.scene⌝⟩⦄
  actions : ∀ (s₀ : Scene) owner acts, ⦃fun w => ⌜s₀.Later w.scene⌝⦄ actions n owner acts
    ⦃post⟨fun _ w => ⌜s₀.Later w.scene⌝, fun _ w => ⌜s₀.Later w.scene⌝⟩⦄
  action : ∀ (s₀ : Scene) i act, ⦃fun w => ⌜s₀.Later w.scene⌝⦄ action n i act
    ⦃post⟨fun _ w => ⌜s₀.Later w.scene⌝, fun _ w => ⌜s₀.Later w.scene⌝⟩⦄
  triggerInstance : ∀ (s₀ : Scene) i, ⦃fun w => ⌜s₀.Later w.scene⌝⦄ triggerInstance n i
    ⦃post⟨fun _ w => ⌜s₀.Later w.scene⌝, fun _ w => ⌜s₀.Later w.scene⌝⟩⦄
  checkCap : ∀ (s₀ : Scene) caps name, ⦃fun w => ⌜s₀.Later w.scene⌝⦄ checkCap n caps name
    ⦃post⟨fun _ w => ⌜s₀.Later w.scene⌝, fun _ w => ⌜s₀.Later w.scene⌝⟩⦄
  callEmit : ∀ (s₀ : Scene) f topic data, ⦃fun w => ⌜s₀.Later w.scene⌝⦄ callEmit n f topic data
    ⦃post⟨fun _ w => ⌜s₀.Later w.scene⌝, fun _ w => ⌜s₀.Later w.scene⌝⟩⦄
  emitOnBus : ∀ (s₀ : Scene) topic data, ⦃fun w => ⌜s₀.Later w.scene⌝⦄ emitOnBus n topic data
    ⦃post⟨fun _ w => ⌜s₀.Later w.scene⌝, fun _ w => ⌜s₀.Later w.scene⌝⟩⦄
  deliver : ∀ (s₀ : Scene) s topic data, ⦃fun w => ⌜s₀.Later w.scene⌝⦄ deliver n s topic data
    ⦃post⟨fun _ w => ⌜s₀.Later w.scene⌝, fun _ w => ⌜s₀.Later w.scene⌝⟩⦄
  busActs : ∀ (s₀ : Scene) acts, ⦃fun w => ⌜s₀.Later w.scene⌝⦄ busActs n acts
    ⦃post⟨fun _ w => ⌜s₀.Later w.scene⌝, fun _ w => ⌜s₀.Later w.scene⌝⟩⦄

section Steps

variable {n : Nat} (ih : ListenersKept n) (s₀ : Scene)
include ih

/-- A setup adds no listener: only a script's actions reach the engine. -/
theorem instantiate_later (c : Component) (name : String) (props : Props) (caps : Nat) :
    ⦃fun w => ⌜s₀.Later w.scene⌝⦄ instantiate (n + 1) c name props caps
    ⦃post⟨fun _ w => ⌜s₀.Later w.scene⌝, fun _ w => ⌜s₀.Later w.scene⌝⟩⦄ := by
  have typed := typedCap_later s₀
  have made := callState_later s₀
  have logged := callLog_later s₀
  have subscribed := callOn_later s₀
  have timed := callTimer_later s₀
  have cleared := callClear_later s₀
  rw [instantiate.eq_def]
  dsimp only
  cases c
  case demo d =>
    -- The demo components only call capabilities, none of which adds a listener.
    cases d <;> mvcgen [typed, made, logged, subscribed, timed, cleared]
  case script s =>
    -- A script's setup runs its actions, which may reach the whole engine through emits and triggers.
    have spent := spend_later s₀
    have marked := mark_later s₀
    have created := newInstance_later s₀
    have changed := modifyInst_later s₀
    have setup := ih.actions s₀
    mvcgen [spent, marked, created, typed, made, changed, setup, fail]

/-- Rendering to markup adds no listener: it reaches the engine only through setups, render calls
and the rendering of children. -/
theorem renderString_later (r : Nat) (v : Value) :
    ⦃fun w => ⌜s₀.Later w.scene⌝⦄ renderString (n + 1) r v
    ⦃post⟨fun _ w => ⌜s₀.Later w.scene⌝, fun _ w => ⌜s₀.Later w.scene⌝⟩⦄ := by
  rw [renderString.eq_def]
  dsimp only
  have text := textOf_later s₀ r
  have read := renderer_later s₀ r
  have composed := compose_later s₀
  have setup := ih.instantiate s₀
  have counted := count_later s₀ r
  have render := callRender_later s₀ n
  have inner := ih.renderString s₀ r
  have all := ih.renderAll s₀ r
  have attrs := attrMarkup_later s₀ r
  -- Between those calls only the trace changes, so what is left is the scene carried across.
  mvcgen [text, read, composed, setup, counted, render, inner, all, attrs, fail] with grind

/-- Rendering children to markup adds no listener, one child after another. -/
theorem renderAll_later (r : Nat) (vs : List Value) :
    ⦃fun w => ⌜s₀.Later w.scene⌝⦄ renderAll (n + 1) r vs
    ⦃post⟨fun _ w => ⌜s₀.Later w.scene⌝, fun _ w => ⌜s₀.Later w.scene⌝⟩⦄ := by
  have first := ih.renderString s₀ r
  have others := ih.renderAll s₀ r
  cases vs <;> rw [renderAll.eq_def] <;> mvcgen [first, others]

/-- A mount keeps the scene later: the listeners its first render phase adds belong to the number it
reserves, after every number handed out before. -/
theorem mount_later (r : Nat) (v : Value) (container : Nat) (owner : Option Nat) :
    ⦃fun w => ⌜s₀.Later w.scene⌝⦄ mount (n + 1) r v container owner
    ⦃post⟨fun _ w => ⌜s₀.Later w.scene⌝, fun _ w => ⌜s₀.Later w.scene⌝⟩⦄ := by
  rw [mount.eq_def]
  dsimp only
  split
  · mvcgen [fail]
  · split
    · mvcgen [fail]
    · -- The number reserved for the node stays vacant until it is registered, whatever the setup does.
      have reserved : ⦃fun w => ⌜s₀.Later w.scene⌝⦄ reserve r
          ⦃post⟨fun id w => ⌜s₀.Later w.scene ∧ (s₀.next r < id ∧ w.scene.Vacant r id)⌝,
            fun _ w => ⌜s₀.Later w.scene⌝⟩⦄ := by
        have := reserve_later s₀ r
        mvcgen [this] with grind
      apply Triple.bind _ _ reserved
      intro id
      have stable : ∀ {s s' : Scene}, (s₀.next r < id ∧ s.Vacant r id) → s.Later s' →
          (s₀.next r < id ∧ s'.Vacant r id) := fun h later => ⟨h.1, later.vacant h.2⟩
      have composed := fun ps t => later_carry (later_of_noThrow (fun s => compose_later s ps t)) s₀ _ stable
      have setup := fun c name props caps => later_carry (fun s => ih.instantiate s c name props caps) s₀ _ stable
      have counted := fun f => later_carry (later_of_noThrow (fun s => count_later s r f)) s₀ _ stable
      have registered := fun p o after elt => register_later s₀ r p o after elt
      have phase := ih.renderPhase s₀ r
      mvcgen [renderer, composed, setup, counted, registered, phase, fail]
      -- What is left is the reserved number's facts, carried to the registration.
      all_goals grind

/-- A render phase keeps the scene later; on the first pass, for a mount point numbered since the
earlier scene, the element it registers listeners on is new. -/
theorem renderPhase_later (r id : Nat) (first : Bool) :
    ⦃fun w => ⌜s₀.Later w.scene ∧ (first = true → Scene.Awaits s₀ w.scene r id)⌝⦄ renderPhase (n + 1) r id first
    ⦃post⟨fun _ w => ⌜s₀.Later w.scene⌝, fun _ w => ⌜s₀.Later w.scene⌝⟩⦄ := by
  rw [renderPhase.eq_def]
  dsimp only
  have flagged := modifyPoint_awaits s₀ r id (fun p => { p with rendering := true }) (fun _ => rfl) (fun _ => rfl)
    first r id
  have unflagged := modifyPoint_later s₀ r id (fun p => { p with rendering := false }) (fun _ => rfl)
  have found := point?_awaits s₀ r id first
  have render := callRender_later s₀ n
  have counted := count_later s₀ r
  have children := ih.mountChildren s₀ r
  have inner := ih.mount s₀ r
  have host := hostElement_later s₀ r id
  have props := fun el ps (fresh : first = true → s₀.doc.elements.size ≤ el ∧ s₀.next r < id) =>
    applyProps_later s₀ r id el ps first fresh
  mvcgen [flagged, unflagged, andFinally, found, render, counted, children, inner, host, props, fail]
  case fresh =>
    -- On the first pass the mount point found by its number has no element yet, so the element the
    -- host node goes into is new.
    grind
  -- The rest carry the scene from one step to the next, and across a stop to the cleared flag.
  all_goals grind

/-- Mounting children keeps the scene later, a text or a mount at a time. -/
theorem mountChildren_later (r : Nat) (cs : List Value) (into owner : Nat) :
    ⦃fun w => ⌜s₀.Later w.scene⌝⦄ mountChildren (n + 1) r cs into owner
    ⦃post⟨fun _ w => ⌜s₀.Later w.scene⌝, fun _ w => ⌜s₀.Later w.scene⌝⟩⦄ := by
  have inner := ih.mount s₀ r
  have text := fun data => modifyDoc_later s₀ _ (fun d => Document.Quiet.appendText d into data)
  have others := ih.mountChildren s₀ r
  cases cs <;> rw [mountChildren.eq_def] <;> mvcgen [inner, text, others]

/-- A re-render adds no listener. -/
theorem update_later (r id : Nat) :
    ⦃fun w => ⌜s₀.Later w.scene⌝⦄ update (n + 1) r id
    ⦃post⟨fun _ w => ⌜s₀.Later w.scene⌝, fun _ w => ⌜s₀.Later w.scene⌝⟩⦄ := by
  rw [update.eq_def]
  dsimp only
  -- A re-render runs its render phase with the first flag off.
  have phase := ih.renderPhase s₀ r id false
  -- A capability failure is turned into a returned one in the world the phase left.
  mvcgen [recover, phase] with grind

/-- Calling a trigger adds no listener: it re-renders a live mount point or does nothing. -/
theorem fire_later (target : TriggerTarget) :
    ⦃fun w => ⌜s₀.Later w.scene⌝⦄ fire (n + 1) target
    ⦃post⟨fun _ w => ⌜s₀.Later w.scene⌝, fun _ w => ⌜s₀.Later w.scene⌝⟩⦄ := by
  rw [fire.eq_def]
  dsimp only
  have again := ih.update s₀
  mvcgen [point?, renderer, again]

/-- Dispatching an event adds no listener. -/
theorem dispatch_later (ev : Event) :
    ⦃fun w => ⌜s₀.Later w.scene⌝⦄ dispatch (n + 1) ev
    ⦃post⟨fun _ w => ⌜s₀.Later w.scene⌝, fun _ w => ⌜s₀.Later w.scene⌝⟩⦄ := by
  rw [dispatch.eq_def]
  dsimp only
  have each := ih.listen s₀
  -- Listeners run one after another, each from the world the one before left, failed or not.
  mvcgen [attempt, each] invariants
  · post⟨fun _ w => ⌜s₀.Later w.scene⌝, fun _ w => ⌜s₀.Later w.scene⌝⟩

/-- Running a listener adds no listener: it counts the event, calls the handler and re-renders. -/
theorem listen_later (l : Listener) (ev : Event) :
    ⦃fun w => ⌜s₀.Later w.scene⌝⦄ listen (n + 1) l ev
    ⦃post⟨fun _ w => ⌜s₀.Later w.scene⌝, fun _ w => ⌜s₀.Later w.scene⌝⟩⦄ := by
  rw [listen.eq_def]
  dsimp only
  have noted := note_later s₀
  have counted := count_later s₀
  have handler := ih.callHandler s₀
  have again := ih.update s₀
  -- A handler's capability failure is returned from the world it left.
  cases l <;> mvcgen [noted, fail, recover, counted, handler, point?, renderer, again] with grind [World.restore]

/-- Calling a handler adds no listener: only a script handler's actions reach the engine. -/
theorem callHandler_later (h : Routine) (ev : Option Event) :
    ⦃fun w => ⌜s₀.Later w.scene⌝⦄ callHandler (n + 1) h ev
    ⦃post⟨fun _ w => ⌜s₀.Later w.scene⌝, fun _ w => ⌜s₀.Later w.scene⌝⟩⦄ := by
  rw [callHandler.eq_def]
  dsimp only
  have spent := spend_later s₀
  have marked := mark_later s₀
  have body := ih.actions s₀
  have state := stateRecord_later s₀
  have set := setState_later s₀
  have typed := typedCap_later s₀
  have logged := callLog_later s₀
  cases h <;> mvcgen [spent, marked, body, state, set, typed, logged]

/-- Running actions keeps the scene later, one action after another. -/
theorem actions_later (owner : Option Nat) (acts : List Action) :
    ⦃fun w => ⌜s₀.Later w.scene⌝⦄ actions (n + 1) owner acts
    ⦃post⟨fun _ w => ⌜s₀.Later w.scene⌝, fun _ w => ⌜s₀.Later w.scene⌝⟩⦄ := by
  have spent := spend_later s₀
  have marked := mark_later s₀
  have first := ih.action s₀
  have others := ih.actions s₀
  cases acts <;> rw [actions.eq_def] <;> mvcgen [spent, marked, first, others]

/-- An action keeps the scene later: only emits, triggers and capability checks reach the engine,
through the level below. -/
theorem action_later (i : Nat) (act : Action) :
    ⦃fun w => ⌜s₀.Later w.scene⌝⦄ action (n + 1) i act
    ⦃post⟨fun _ w => ⌜s₀.Later w.scene⌝, fun _ w => ⌜s₀.Later w.scene⌝⟩⦄ := by
  rw [action.eq_def]
  dsimp only
  have read := inst_later s₀
  have context := actionContext_later s₀
  have set := setState_later s₀
  have marked := mark_later s₀
  have state := stateRecord_later s₀
  have typed := typedCap_later s₀
  have logged := callLog_later s₀
  have emitted := ih.callEmit s₀
  have subscribed := callOn_later s₀
  have changed := modifyInst_later s₀
  have disposed := dispose_later s₀
  have trigger := ih.triggerInstance s₀
  have check := ih.checkCap s₀
  have caps := capset_later s₀
  have noted := note_later s₀
  cases act <;> mvcgen [read, context, set, marked, state, typed, logged, emitted, subscribed, changed, disposed,
    trigger, check, caps, noted]

/-- An instance's trigger keeps the scene later, as the trigger it calls does. -/
theorem triggerInstance_later (i : Nat) :
    ⦃fun w => ⌜s₀.Later w.scene⌝⦄ triggerInstance (n + 1) i
    ⦃post⟨fun _ w => ⌜s₀.Later w.scene⌝, fun _ w => ⌜s₀.Later w.scene⌝⟩⦄ := by
  rw [triggerInstance.eq_def]
  dsimp only
  have read := inst_later s₀
  have caps := capset_later s₀
  have marked := mark_later s₀
  have again := ih.fire s₀
  have noted := note_later s₀
  -- A failed trigger call is noted in the world it left.
  mvcgen [read, caps, marked, attempt, again, noted] with grind [World.restore]

/-- Exercising a capability keeps the scene later: only the emit capability reaches the engine. -/
theorem checkCap_later (caps : Nat) (name : String) :
    ⦃fun w => ⌜s₀.Later w.scene⌝⦄ checkCap (n + 1) caps name
    ⦃post⟨fun _ w => ⌜s₀.Later w.scene⌝, fun _ w => ⌜s₀.Later w.scene⌝⟩⦄ := by
  rw [checkCap.eq_def]
  dsimp only
  have typed := typedCap_later s₀
  have marked := mark_later s₀
  have made := callState_later s₀
  have noted := note_later s₀
  have state := stateRecord_later s₀
  have logged := callLog_later s₀
  have timed := callTimer_later s₀
  have cleared := callClear_later s₀
  have emitted := ih.callEmit s₀
  have subscribed := callOn_later s₀
  have disposed := dispose_later s₀
  have read := capset_later s₀
  -- Each capability is called through its typed accessor; what is left is the scene carried across.
  split <;> mvcgen [typed, marked, made, noted, state, logged, timed, cleared, emitted, subscribed, disposed, read]
    with grind

/-- Calling an emit function keeps the scene later, as the emit on the bus does. -/
theorem callEmit_later (f : Value) (topic : String) (data : Value) :
    ⦃fun w => ⌜s₀.Later w.scene⌝⦄ callEmit (n + 1) f topic data
    ⦃post⟨fun _ w => ⌜s₀.Later w.scene⌝, fun _ w => ⌜s₀.Later w.scene⌝⟩⦄ := by
  rw [callEmit.eq_def]
  dsimp only
  have bus := ih.emitOnBus s₀
  have noted := note_later s₀
  mvcgen [bus, noted] with grind

/-- Emitting on the bus keeps the scene later, one subscriber after another. -/
theorem emitOnBus_later (topic : String) (data : Value) :
    ⦃fun w => ⌜s₀.Later w.scene⌝⦄ emitOnBus (n + 1) topic data
    ⦃post⟨fun _ w => ⌜s₀.Later w.scene⌝, fun _ w => ⌜s₀.Later w.scene⌝⟩⦄ := by
  rw [emitOnBus.eq_def]
  dsimp only
  have spent := spend_later s₀
  have each := ih.deliver s₀
  mvcgen [spent, each] invariants
  · post⟨fun _ w => ⌜s₀.Later w.scene⌝, fun _ w => ⌜s₀.Later w.scene⌝⟩

/-- Delivering to a subscriber keeps the scene later. -/
theorem deliver_later (s : Subscriber) (topic : String) (data : Value) :
    ⦃fun w => ⌜s₀.Later w.scene⌝⦄ deliver (n + 1) s topic data
    ⦃post⟨fun _ w => ⌜s₀.Later w.scene⌝, fun _ w => ⌜s₀.Later w.scene⌝⟩⦄ := by
  rw [deliver.eq_def]
  dsimp only
  have noted := note_later s₀
  have steps := ih.busActs s₀
  have set := setState_later s₀
  have read := inst_later s₀
  have trigger := ih.triggerInstance s₀
  cases s <;> mvcgen [noted, steps, set, read, trigger] with grind

/-- A subscriber's bus steps keep the scene later, one after another. -/
theorem busActs_later (acts : List BusAct) :
    ⦃fun w => ⌜s₀.Later w.scene⌝⦄ busActs (n + 1) acts
    ⦃post⟨fun _ w => ⌜s₀.Later w.scene⌝, fun _ w => ⌜s₀.Later w.scene⌝⟩⦄ := by
  have disposed := dispose_later s₀
  have subscribed := callOn_later s₀
  have marked := mark_later s₀
  have bus := ih.emitOnBus s₀
  have others := ih.busActs s₀
  cases acts <;> rw [busActs.eq_def] <;> mvcgen [disposed, subscribed, marked, bus, others]

end Steps

/-- Out of fuel, every engine function stops at once. -/
theorem ListenersKept.zero : ListenersKept 0 where
  instantiate _ _ _ _ _ := by rw [instantiate.eq_def]; mvcgen
  renderString _ _ _ := by rw [renderString.eq_def]; mvcgen
  renderAll _ _ _ := by rw [renderAll.eq_def]; mvcgen
  mount _ _ _ _ _ := by rw [mount.eq_def]; mvcgen
  renderPhase _ _ _ _ := by rw [renderPhase.eq_def]; mvcgen with grind
  mountChildren _ _ _ _ _ := by rw [mountChildren.eq_def]; mvcgen
  update _ _ _ := by rw [update.eq_def]; mvcgen
  fire _ _ := by rw [fire.eq_def]; mvcgen
  dispatch _ _ := by rw [dispatch.eq_def]; mvcgen
  listen _ _ _ := by rw [listen.eq_def]; mvcgen
  callHandler _ _ _ := by rw [callHandler.eq_def]; mvcgen
  actions _ _ _ := by rw [actions.eq_def]; mvcgen
  action _ _ _ := by rw [action.eq_def]; mvcgen
  triggerInstance _ _ := by rw [triggerInstance.eq_def]; mvcgen
  checkCap _ _ _ := by rw [checkCap.eq_def]; mvcgen
  callEmit _ _ _ _ := by rw [callEmit.eq_def]; mvcgen
  emitOnBus _ _ _ := by rw [emitOnBus.eq_def]; mvcgen
  deliver _ _ _ _ := by rw [deliver.eq_def]; mvcgen
  busActs _ _ := by rw [busActs.eq_def]; mvcgen

theorem ListenersKept.succ {n : Nat} (ih : ListenersKept n) : ListenersKept (n + 1) :=
  ⟨instantiate_later ih, renderString_later ih, renderAll_later ih, mount_later ih, renderPhase_later ih,
    mountChildren_later ih, update_later ih, fire_later ih, dispatch_later ih, listen_later ih,
    callHandler_later ih, actions_later ih, action_later ih, triggerInstance_later ih, checkCap_later ih,
    callEmit_later ih, emitOnBus_later ih, deliver_later ih, busActs_later ih⟩

/-- At every fuel, every engine function keeps the scene later. -/
theorem listenersKept : ∀ n, ListenersKept n
  | 0 => .zero
  | n + 1 => (listenersKept n).succ

/-- A call of a host program keeps the scene later, whether it finishes or stops. -/
theorem call_later (r : Nat) (s₀ : Scene) (c : Call) :
    ⦃fun w => ⌜s₀.Later w.scene⌝⦄ c.run r
    ⦃post⟨fun _ w => ⌜s₀.Later w.scene⌝, fun _ w => ⌜s₀.Later w.scene⌝⟩⦄ := by
  have kept := listenersKept depthAllowance
  cases c
  case dispatch target type detail =>
    have events := kept.dispatch s₀
    mvcgen [Call.run, dispatchOn, events]
  case emit topic data =>
    have bus := kept.emitOnBus s₀
    mvcgen [Call.run, emit, bus]
  case trigger target =>
    have again := kept.fire s₀
    mvcgen [Call.run, fireTrigger, attempt, again]
  case mount v container =>
    have mounted := (listenersKept mountAllowance).mount s₀ r v container none
    mvcgen [Call.run, mountInto, attempt, recover, mounted]

/-- Calls, each from where the one before stopped, leave a scene later than the one they started
from. -/
theorem runAll_later (r : Nat) (calls : List Call) {w : World} (numbered : w.scene.Numbered) :
    w.scene.Later (Call.runAll r calls w).scene := by
  induction calls generalizing w with
  | nil => exact .refl numbered
  | cons c rest ih =>
    -- The first call leaves a later scene, and the rest start from it.
    have first : w.scene.Later ((c.run r).leaves w).scene :=
      leaves_of_triple (P := fun w' => w.scene.Later w'.scene) (call_later r w.scene c) (.refl numbered)
    exact first.trans (ih first.numbered)

/-- A re-render, through a trigger call, registers no listener for a mount point numbered before it:
on every element, the listeners naming that mount point are the ones it had. -/
theorem rerender_registers_no_listener (r : Nat) (target : TriggerTarget) {w : World}
    (numbered : w.scene.Numbered) {r' id : Nat} (before : id ≤ w.scene.next r') (x : Nat) (ev : String)
    (handler : Routine) :
    Listener.mounted r' id handler ∈ ((Call.trigger target).run r |>.leaves w).doc.listenersOf x ev ↔
      Listener.mounted r' id handler ∈ w.doc.listenersOf x ev := by
  have later := runAll_later r [Call.trigger target] numbered
  by_cases old : x < w.doc.elements.size
  · exact (later.kept x old ev) ▸ Iff.rfl
  · -- A new element has only listeners of mount points numbered since, and none before.
    rw [Document.listenersOf_of_size_le (Nat.le_of_not_lt old)]
    refine ⟨fun mem => ?_, fun mem => absurd mem List.not_mem_nil⟩
    have after : w.scene.next r' < id := later.newer x ev (Nat.le_of_not_lt old) _ mem
    omega

end Run

end ViewEngine
