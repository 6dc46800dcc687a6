import Mathlib
import ViewEngine.Proofs.Host.Forms
import ViewEngine.Proofs.Live.Listeners

/-! Mounting content with no component in it, and re-rendering without clearing. Content is
described by the forms a reader of the document sees (`Mounts`); mounting it appends those forms to
the container and adds one mount point per node (`plainMounting`). A renderer that does not clear on
update re-renders a mount point into its element by mounting the output's children again after what
the element holds, so over a first render phase and `n` re-renders the element shows the forms of
every output, first to last, and no mount point is released (`rerenders_append_children`). -/

namespace ViewEngine

open Host Std.Do

set_option mvcgen.warning false

/-- The items a host node is rebuilt from on each render of its mount point: its tag, its props
when it has any, and its children. -/
def hostItems (s : String) (props : Props) (children : List Value) : List Value :=
  .str s :: ((match props with
    | some p => [Value.props (some p)]
    | none => []) ++ children)

mutual
/-- What mounting a value adds when nothing in it is a component, and how many mount points: a value
that is no node is one text; a node with a host tag is one mount point, rendered from its own rebuild
into one element that holds what the rebuilt children mount as; a fragment is one mount point whose
rebuilt children mount in its place. -/
inductive Mounts : Value → List Form → Nat → Prop where
  | text {v : Value} : v.asNode? = none → Mounts v [.text v.text] 0
  | element {v : Value} {items : List Value} {parts parts' : Parts} {s : String} {fs : List Form} {k : Nat} :
      v.asNode? = some items → split items = some parts → parts.tag = .str s → s ≠ fragmentTag →
      split (hostItems s parts.props parts.children) = some parts' → MountsAll parts'.children fs k →
      Mounts v [.element s fs] (k + 1)
  | fragment {v : Value} {items : List Value} {parts parts' : Parts} {fs : List Form} {k : Nat} :
      v.asNode? = some items → split items = some parts → parts.tag = .str fragmentTag →
      split (hostItems fragmentTag parts.props parts.children) = some parts' → MountsAll parts'.children fs k →
      Mounts v fs (k + 1)

/-- What mounting values one after another adds. -/
inductive MountsAll : List Value → List Form → Nat → Prop where
  | nil : MountsAll [] [] 0
  | cons {v : Value} {vs : List Value} {fs gs : List Form} {k m : Nat} :
      Mounts v fs k → MountsAll vs gs m → MountsAll (v :: vs) (fs ++ gs) (k + m)
end

/-- A render output that is a host node with tag `s` whose children mount as forms: a first render
phase places one element of that tag, and every render phase mounts the children into it. -/
def HostRender (c : Value) (s : String) (fs : List Form) (k : Nat) : Prop :=
  ∃ parts, c.asNode?.bind split = some parts ∧ parts.tag = .str s ∧ s ≠ fragmentTag ∧
    MountsAll parts.children fs k

/-- A render output that is a fragment whose children mount as forms, in the container. -/
def FragmentRender (c : Value) (fs : List Form) (k : Nat) : Prop :=
  ∃ parts, c.asNode?.bind split = some parts ∧ parts.tag = .str fragmentTag ∧ MountsAll parts.children fs k

/-- What a first render phase places into the container: a fragment's children, or one element. -/
def Places (c : Value) (fs : List Form) (k : Nat) : Prop :=
  FragmentRender c fs k ∨ ∃ s gs, HostRender c s gs k ∧ fs = [.element s gs]

/-- A host node is no fragment. -/
theorem HostRender.not_fragment {c : Value} {s : String} {gs fs : List Form} {k j : Nat} (h : HostRender c s gs k) :
    ¬ FragmentRender c fs j := by
  rintro ⟨parts, split, tag, -⟩
  obtain ⟨parts', split', tag', other, -⟩ := h
  rw [split] at split'
  cases split'
  rw [tag] at tag'
  cases tag'
  exact other rfl

/-- A mount point kept through a run: the same number, render function, props, children and
container, and the element it had, if it had one. -/
structure MountPoint.Kept (p q : MountPoint) : Prop where
  id : q.id = p.id
  element : ∀ el, p.element = some el → q.element = some el
  render : q.render = p.render
  props : q.props = p.props
  children : q.children = p.children
  container : q.container = p.container

namespace MountPoint.Kept

theorem refl (p : MountPoint) : p.Kept p := ⟨rfl, fun _ h => h, rfl, rfl, rfl, rfl⟩

theorem trans {p q t : MountPoint} (h₁ : p.Kept q) (h₂ : q.Kept t) : p.Kept t :=
  ⟨h₂.id.trans h₁.id, fun el h => h₂.element el (h₁.element el h), h₂.render.trans h₁.render,
    h₂.props.trans h₁.props, h₂.children.trans h₁.children, h₂.container.trans h₁.container⟩

/-- Flagging a render phase keeps a mount point. -/
theorem rendering (p : MountPoint) (b : Bool) : p.Kept { p with rendering := b } :=
  ⟨rfl, fun _ h => h, rfl, rfl, rfl, rfl⟩

end MountPoint.Kept

/-- The mount points of a renderer after a run that released none: each one before is kept, in
order, and `k` new ones follow. -/
def Grown (ps ps' : List MountPoint) (k : Nat) : Prop :=
  ∃ g : MountPoint → MountPoint, ∃ new : List MountPoint,
    ps' = ps.map g ++ new ∧ (∀ p ∈ ps, p.Kept (g p)) ∧ new.length = k

namespace Grown

theorem refl (ps : List MountPoint) : Grown ps ps 0 :=
  ⟨fun p => p, [], by simp, fun p _ => .refl p, rfl⟩

theorem map {ps : List MountPoint} {f : MountPoint → MountPoint} (kept : ∀ p ∈ ps, p.Kept (f p)) :
    Grown ps (ps.map f) 0 :=
  ⟨f, [], by simp, kept, rfl⟩

theorem append (ps : List MountPoint) (p : MountPoint) : Grown ps (ps ++ [p]) 1 :=
  ⟨fun p => p, [p], by simp, fun p _ => .refl p, rfl⟩

theorem trans {ps ps' ps'' : List MountPoint} {k k' : Nat} (h₁ : Grown ps ps' k) (h₂ : Grown ps' ps'' k') :
    Grown ps ps'' (k + k') := by
  obtain ⟨g₁, new₁, rfl, kept₁, length₁⟩ := h₁
  obtain ⟨g₂, new₂, rfl, kept₂, length₂⟩ := h₂
  -- The points kept twice are kept; the new ones of the first run, as the second run leaves them,
  -- come before its own.
  refine ⟨g₂ ∘ g₁, new₁.map g₂ ++ new₂, by simp, fun p hp => (kept₁ p hp).trans (kept₂ _ ?_), ?_⟩
  · exact List.mem_append_left _ (List.mem_map_of_mem hp)
  · simp [length₁, length₂]

/-- The renderer holds `k` more mount points. -/
theorem length {ps ps' : List MountPoint} {k : Nat} (h : Grown ps ps' k) : ps'.length = ps.length + k := by
  obtain ⟨g, new, rfl, -, rfl⟩ := h
  simp

/-- The first mount point of a number is still the first of its number, kept. -/
theorem find? {ps ps' : List MountPoint} {k : Nat} (h : Grown ps ps' k) {id : Nat} {p : MountPoint}
    (found : ps.find? (·.id == id) = some p) : ∃ q, ps'.find? (·.id == id) = some q ∧ p.Kept q := by
  obtain ⟨g, new, rfl, kept, -⟩ := h
  have same : ∀ q ∈ ps, ((fun q => q.id == id) ∘ g) q = (q.id == id) := by
    intro q hq
    simp [(kept q hq).id]
  refine ⟨g p, ?_, kept p (List.mem_of_find?_eq_some found)⟩
  rw [List.find?_append, List.find?_map, List.find?_congr same, found]
  rfl

end Grown

/-- The marks of a prop change no element's tag or children. -/
theorem Attr.sameShapes_mark {L : Type} (p : Attr) (el : Nat) (d : Document L) : d.SameShapes (p.mark el d) :=
  Attr.mark_rel Document.SameShapes .refl (fun h₁ h₂ => h₁.trans h₂) .addClass .setDataset .setProperty
    .deleteProperty .setAttribute p el d

/-- A scene after steps that change no element's tag or children and add `j` mount points to a
renderer, releasing none. -/
structure Scene.Grows (r : Nat) (s s' : Scene) (j : Nat) : Prop where
  shapes : s.doc.SameShapes s'.doc
  points : Grown (s.points r) (s'.points r) j

namespace Scene.Grows

variable {r : Nat} {s s₁ s₂ : Scene}

theorem refl (r : Nat) (s : Scene) : s.Grows r s 0 := ⟨.refl _, .refl _⟩

/-- A change of the document alone that keeps every shape adds no mount point. -/
theorem of_shapes {w w' : World} (shapes : w.doc.SameShapes w'.doc) (same : w'.renderers = w.renderers) :
    w.scene.Grows r w'.scene 0 := by
  refine ⟨shapes, ?_⟩
  have points : w'.scene.points r = w.scene.points r := by
    simp only [Scene.points, World.scene, same]
  rw [points]
  exact .refl _

theorem trans {j j' : Nat} (h₁ : s.Grows r s₁ j) (h₂ : s₁.Grows r s₂ j') : s.Grows r s₂ (j + j') :=
  ⟨h₁.shapes.trans h₂.shapes, h₁.points.trans h₂.points⟩

/-- Changing a renderer so that its mount points become their images, each kept, adds none. -/
theorem renderer (s : Scene) (r' : Nat) (f : Renderer → Renderer) (g : MountPoint → MountPoint)
    (mapped : (f (s.renderers.getD r' Renderer.default)).points = (s.points r').map g)
    (kept : ∀ p ∈ s.points r', p.Kept (g p)) : s.Grows r ⟨s.doc, s.renderers.modify r' f⟩ 0 := by
  refine ⟨.refl _, ?_⟩
  rw [Scene.points_modify]
  split
  · rename_i same
    obtain ⟨rfl, -⟩ := same
    rw [mapped]
    exact .map kept
  · exact .refl _

end Scene.Grows

/-- What a run that mounts into an element leaves, against the scene it started from: the element
holds its old children followed by content made since that shows the forms; every other element
that was there keeps its tag and children; and the renderer's mount points grew by `k`, none
released. -/
structure Appended (r into : Nat) (s s' : Scene) (fs : List Form) (k : Nat) : Prop where
  children : ∃ C, s'.doc.shapeAt into = (s.doc.shapeAt into).map (fun sh => (sh.1, sh.2 ++ C)) ∧
    s'.doc.Shows s.doc.elements.size C fs
  frame : ∀ e < s.doc.elements.size, e ≠ into → s'.doc.shapeAt e = s.doc.shapeAt e
  size_le : s.doc.elements.size ≤ s'.doc.elements.size
  points : Grown (s.points r) (s'.points r) k

namespace Appended

variable {r into : Nat} {s s₁ s₂ : Scene} {fs fs' : List Form} {k k' j : Nat}

theorem refl (r into : Nat) (s : Scene) : Appended r into s s [] 0 :=
  ⟨⟨[], by simp, .nil⟩, fun _ _ _ => rfl, Nat.le_refl _, .refl _⟩

/-- Mounting in two runs: what the second appends follows what the first did, and the content of
the first, made before the second began, is not touched by it. -/
theorem trans (inside : into < s.doc.elements.size) (h₁ : Appended r into s s₁ fs k)
    (h₂ : Appended r into s₁ s₂ fs' k') : Appended r into s s₂ (fs ++ fs') (k + k') := by
  obtain ⟨C, shape, shows⟩ := h₁.children
  obtain ⟨C', shape', shows'⟩ := h₂.children
  refine ⟨⟨C ++ C', ?_, ?_⟩, fun e he ne => ?_, Nat.le_trans h₁.size_le h₂.size_le, h₁.points.trans h₂.points⟩
  · rw [shape', shape, Option.map_map]
    congr 1
    funext sh
    simp
  · -- The first content's elements lie from the first scene's size on, above the element mounted into.
    exact (shows.frame fun e past made => h₂.frame e made (by omega)).append (shows'.mono h₁.size_le)
  · rw [h₂.frame e (Nat.lt_of_lt_of_le he h₁.size_le) ne, h₁.frame e he ne]

theorem grows_left (g : s.Grows r s₁ j) (h : Appended r into s₁ s₂ fs k) : Appended r into s s₂ fs (j + k) := by
  obtain ⟨C, shape, shows⟩ := h.children
  refine ⟨⟨C, by rw [shape, g.shapes.shape], g.shapes.size ▸ shows⟩, fun e he ne => ?_, ?_, g.points.trans h.points⟩
  · rw [h.frame e (g.shapes.size ▸ he) ne, g.shapes.shape]
  · exact g.shapes.size ▸ h.size_le

theorem grows_right (h : Appended r into s s₁ fs k) (g : s₁.Grows r s₂ j) : Appended r into s s₂ fs (k + j) := by
  obtain ⟨C, shape, shows⟩ := h.children
  refine ⟨⟨C, by rw [g.shapes.shape, shape], shows.frame fun e _ _ => g.shapes.shape e⟩, fun e he ne => ?_, ?_,
    h.points.trans g.points⟩
  · rw [g.shapes.shape, h.frame e he ne]
  · exact g.shapes.size ▸ h.size_le

/-- Steps that add no mount point and change no shape, before and after, change nothing appended. -/
theorem within {s₃ : Scene} (before : s.Grows r s₁ 0) (h : Appended r into s₁ s₂ fs k) (after : s₂.Grows r s₃ 0) :
    Appended r into s s₃ fs k := by
  simpa using (h.grows_left before).grows_right after

/-- Appending a text shows that text. -/
theorem text (r into : Nat) (s : Scene) (data : String) :
    Appended r into s ⟨s.doc.appendText into data, s.renderers⟩ [.text data] 0 := by
  refine ⟨⟨[.text data], by simp [Document.shapeAt_appendText], .text .nil⟩, fun e _ ne => ?_, ?_, .refl _⟩
  · simp [Document.shapeAt_appendText, ne]
  · simp [Document.appendText]

end Appended

/-- What the render phases of a mount point `K` leave, against the scene before its first one, when
that one placed an element: the container holds its old children followed by the element, made
first after the scene; the element has the tag and children made since it that show the forms; every
other element that was there keeps its tag and children; `K` is found, kept, with the element; and
the renderer's mount points grew by `k`, none released. -/
structure Rendered (r into : Nat) (K : MountPoint) (s s' : Scene) (tag : String) (fs : List Form) (k : Nat) :
    Prop where
  container : s'.doc.shapeAt into =
    (s.doc.shapeAt into).map (fun sh => (sh.1, sh.2 ++ [.element s.doc.elements.size]))
  element : ∃ children, s'.doc.shapeAt s.doc.elements.size = some (tag, children) ∧
    s'.doc.Shows (s.doc.elements.size + 1) children fs
  frame : ∀ e < s.doc.elements.size, e ≠ into → s'.doc.shapeAt e = s.doc.shapeAt e
  point : ∃ q, (s'.points r).find? (·.id == K.id) = some q ∧ K.Kept q ∧ q.element = some s.doc.elements.size
  points : Grown (s.points r) (s'.points r) k

namespace Rendered

variable {r into : Nat} {K : MountPoint} {s s₁ s₂ s₃ : Scene} {tag : String} {fs gs : List Form} {k j : Nat}

/-- A placed element is one appended element form. -/
theorem appended (h : Rendered r into K s s₁ tag fs k) : Appended r into s s₁ [.element tag fs] k := by
  obtain ⟨children, shape, shows⟩ := h.element
  refine ⟨⟨[.element s.doc.elements.size], h.container, .element (Nat.le_refl _) shape shows .nil⟩, h.frame, ?_,
    h.points⟩
  exact Nat.le_of_lt (Document.lt_of_shapeAt shape)

/-- A new element attached to the container, then filled by a mount into it. The element is made at
the scene's size, attached, and given props, which change no shape; the mount into it appends its
children. -/
theorem attach (inside : into < s.doc.elements.size)
    (attached : ((s.doc.create tag).1.appendChild into s.doc.elements.size).SameShapes s₁.doc)
    (points : Grown (s.points r) (s₁.points r) 0)
    (placed : ∃ q, (s₁.points r).find? (·.id == K.id) = some q ∧ K.Kept q ∧ q.element = some s.doc.elements.size)
    (inner : Appended r s.doc.elements.size s₁ s₂ fs k) : Rendered r into K s s₂ tag fs k := by
  obtain ⟨C, shape, shows⟩ := inner.children
  have size₁ : s₁.doc.elements.size = s.doc.elements.size + 1 := by
    rw [attached.size]
    simp [Document.appendChild]
  -- Before the inner mount, every old place but the container has its shape, the container has the
  -- new element last, and the new element is empty.
  have old : ∀ e < s.doc.elements.size, s₁.doc.shapeAt e =
      if e = into then (s.doc.shapeAt e).map (fun sh => (sh.1, sh.2 ++ [.element s.doc.elements.size]))
      else s.doc.shapeAt e := by
    intro e he
    rw [attached.shape, Document.shapeAt_appendChild, Document.shapeAt_create, if_neg (Nat.ne_of_lt he)]
  have made : s₁.doc.shapeAt s.doc.elements.size = some (tag, []) := by
    rw [attached.shape, Document.shapeAt_appendChild, if_neg (Nat.ne_of_gt inside), Document.shapeAt_create,
      if_pos rfl]
  obtain ⟨q, found, kept, elt⟩ := placed
  obtain ⟨q', found', kept'⟩ := inner.points.find? found
  refine ⟨?_, ⟨C, ?_, shows.mono (by omega)⟩, fun e he ne => ?_, ⟨q', found', kept.trans kept', kept'.element _ elt⟩,
    by simpa using points.trans inner.points⟩
  · rw [inner.frame into (by omega) (Nat.ne_of_lt inside), old into inside, if_pos rfl]
  · rw [shape, made]
    rfl
  · rw [inner.frame e (by omega) (by omega), old e he, if_neg ne]

/-- A later render phase that appends into the element appends to its children. -/
theorem append (h : Rendered r into K s s₁ tag fs k) (inside : into < s.doc.elements.size)
    (g : Appended r s.doc.elements.size s₁ s₂ gs j) : Rendered r into K s s₂ tag (fs ++ gs) (k + j) := by
  obtain ⟨children, shape, shows⟩ := h.element
  obtain ⟨C, shape', shows'⟩ := g.children
  have made : s.doc.elements.size < s₁.doc.elements.size := Document.lt_of_shapeAt shape
  obtain ⟨q, found, kept, elt⟩ := h.point
  obtain ⟨q', found', kept'⟩ := g.points.find? found
  refine ⟨?_, ⟨children ++ C, ?_, ?_⟩, fun e he ne => ?_, ⟨q', found', kept.trans kept', kept'.element _ elt⟩,
    h.points.trans g.points⟩
  · rw [g.frame into (by omega) (by omega), h.container]
  · rw [shape', shape]
    rfl
  · -- The element's old content lies after it and before the appended content.
    exact (shows.frame fun e after present => g.frame e present (by omega)).append (shows'.mono made)
  · rw [g.frame e (by omega) (by omega), h.frame e he ne]

/-- Steps that add no mount point and change no shape, before and after, change nothing placed. -/
theorem within (before : s.Grows r s₁ 0) (h : Rendered r into K s₁ s₂ tag fs k) (after : s₂.Grows r s₃ 0) :
    Rendered r into K s s₃ tag fs k := by
  have size : s₁.doc.elements.size = s.doc.elements.size := before.shapes.size
  obtain ⟨children, shape, shows⟩ := h.element
  obtain ⟨q, found, kept, elt⟩ := h.point
  obtain ⟨q', found', kept'⟩ := after.points.find? found
  refine ⟨?_, ⟨children, ?_, ?_⟩, fun e he ne => ?_, ⟨q', found', kept.trans kept', ?_⟩, ?_⟩
  · rw [after.shapes.shape, h.container, size, before.shapes.shape]
  · rw [after.shapes.shape, ← size, shape]
  · exact size ▸ shows.frame fun e _ _ => after.shapes.shape e
  · rw [after.shapes.shape, h.frame e (size ▸ he) ne, before.shapes.shape]
  · rw [kept'.element _ elt, size]
  · simpa using (before.points.trans h.points).trans after.points

end Rendered

/-- The first item of a rebuilt host node is its tag. -/
theorem split_hostItems_tag {s : String} {props : Props} {children : List Value} {parts : Parts}
    (h : split (hostItems s props children) = some parts) : parts.tag = .str s :=
  split_cons_tag _ _ h

/-- No mount point of a number has an element: its first render phase has not placed one. -/
def Scene.Unplaced (s : Scene) (r id : Nat) : Prop := ∀ q ∈ s.points r, q.id = id → q.element = none

/-- Before mounting into an element: every live mount point numbered, the renderer and the element
there. -/
structure Ready (r into : Nat) (w : World) : Prop where
  numbered : w.scene.Numbered
  renderer : r < w.renderers.size
  into : into < w.doc.elements.size

theorem Ready.mono {r into : Nat} {w w' : World} (ready : Ready r into w) (numbered : w'.scene.Numbered)
    (size : w'.renderers.size = w.renderers.size) (elements : w.doc.elements.size ≤ w'.doc.elements.size) :
    Ready r into w' :=
  ⟨numbered, size ▸ ready.renderer, Nat.lt_of_lt_of_le ready.into elements⟩

theorem Ready.of_later {r into : Nat} {w w' : World} (ready : Ready r into w) (later : w.scene.Later w'.scene) :
    Ready r into w' :=
  ready.mono later.numbered later.size later.elements

/-- Whether every live mount point is numbered depends on the renderers alone. -/
theorem Scene.numbered_of_renderers {w w' : World} (same : w'.renderers = w.renderers) (h : w.scene.Numbered) :
    w'.scene.Numbered := by
  unfold Scene.Numbered Scene.points Scene.next World.scene at *
  rw [same]
  exact h

namespace Run

variable {α β : Type}

/-- A run of `x` then `g` that finished: `x` finished, and `g` finished from where `x` left off. -/
theorem bind_ok {x : Run α} {g : α → Run β} {w w' : World} {b : β} (h : (x >>= g).run w = .ok b w') :
    ∃ a w₁, x.run w = .ok a w₁ ∧ (g a).run w₁ = .ok b w' := by
  rw [bind_run] at h
  split at h
  · exact ⟨_, _, ‹_›, h⟩
  · cases h

/-- A step that cannot stop and finished leaves what its specification promises. -/
theorem ok_of_noThrow {m : Run α} {P : World → Prop} {Q : α → World → Prop}
    (h : ⦃fun w => ⌜P w⌝⦄ m ⦃⇓ a w => ⌜Q a w⌝⦄) {w w' : World} {a : α} (hw : P w) (run : m.run w = .ok a w') :
    Q a w' := by
  have holds := h w hw
  simp only [wp, PredTrans.apply] at holds
  rw [run] at holds
  exact holds

/-- A step that finished leaves what its specification promises on finishing. -/
theorem ok_of_triple {m : Run α} {P : World → Prop} {Q : α → World → Prop} {E : Abort → World → Prop}
    (h : ⦃fun w => ⌜P w⌝⦄ m ⦃post⟨fun a w => ⌜Q a w⌝, fun e w => ⌜E e w⌝⟩⦄) {w w' : World} {a : α} (hw : P w)
    (run : m.run w = .ok a w') : Q a w' := by
  have holds := h w hw
  simp only [wp, PredTrans.apply] at holds
  rw [run] at holds
  exact holds

theorem fail_run (f : Failure) (w : World) : (fail f : Run α).run w = .error (.fail f) w := rfl

@[simp] theorem set_run (w w' : World) : (set w' : Run PUnit).run w = .ok () w' := rfl

theorem reserve_run (r : Nat) (w : World) :
    (reserve r).run w = .ok (w.scene.next r + 1)
      { w with renderers := w.renderers.modify r (fun rd => { rd with next := rd.next + 1 }) } := rfl

theorem point?_run (r id : Nat) (w : World) :
    (point? r id).run w = .ok ((w.scene.points r).find? (fun p => p.id == id)) w := rfl

theorem createElement_run (tag : String) (w : World) :
    (createElement tag).run w = .ok w.doc.elements.size { w with doc := (w.doc.create tag).1 } := rfl

theorem modifyDoc_run (f : Document Listener → Document Listener) (w : World) :
    (modifyDoc f).run w = .ok () { w with doc := f w.doc } := rfl

/-- Handing out a number changes no mount point. -/
theorem reserve_grows {r r' id : Nat} {w w' : World} (run : (reserve r).run w = .ok id w') :
    w.scene.Grows r' w'.scene 0 := by
  rw [reserve_run] at run
  cases run
  show w.scene.Grows r' ⟨w.doc, w.renderers.modify r (fun rd => { rd with next := rd.next + 1 })⟩ 0
  refine Scene.Grows.renderer w.scene r _ (fun p => p) ?_ (fun p _ => .refl p)
  simp [Scene.points]

/-- Counting changes no mount point. -/
theorem count_grows {r r' : Nat} {f : Metrics → Metrics} {w w' : World} (run : (count r f).run w = .ok () w') :
    w.scene.Grows r' w'.scene 0 := by
  rw [count_run] at run
  cases run
  show w.scene.Grows r' ⟨w.doc, w.renderers.modify r (fun rd => { rd with metrics := rd.metrics.map f })⟩ 0
  refine Scene.Grows.renderer w.scene r _ (fun p => p) ?_ (fun p _ => .refl p)
  simp [Scene.points]

/-- Changing the mount points of a number keeps every mount point when it keeps those. -/
theorem modifyPoint_grows {r r' id : Nat} {f : MountPoint → MountPoint} {w w' : World}
    (run : (modifyPoint r id f).run w = .ok () w') (kept : ∀ p ∈ w.scene.points r, p.id = id → p.Kept (f p)) :
    w.scene.Grows r' w'.scene 0 := by
  rw [modifyPoint_run] at run
  cases run
  show w.scene.Grows r'
    ⟨w.doc, w.renderers.modify r (fun rd => { rd with points := rd.points.map (fun p => if p.id == id then f p else p) })⟩ 0
  refine Scene.Grows.renderer w.scene r _ (fun p => if p.id == id then f p else p) ?_ (fun p hp => ?_)
  · rfl
  by_cases same : p.id = id
  · simp only [same, beq_self_eq_true, if_true]
    exact kept p hp same
  · simp only [beq_iff_eq, same, if_false]
    exact .refl p

/-- Changing the mount points of a number without renumbering them changes the first one of that
number as it changes each. -/
theorem find?_modifyPoint (r id : Nat) (f : MountPoint → MountPoint) (keeps : ∀ q, (f q).id = q.id) (w : World) :
    (((modifyPoint r id f).leaves w).scene.points r).find? (·.id == id) =
      ((w.scene.points r).find? (·.id == id)).map f := by
  change (((modifyPoint r id f).leaves w).points r).find? _ = ((w.points r).find? _).map f
  rw [points_modifyPoint, List.find?_map]
  have same : ((fun q => q.id == id) ∘ fun q => if q.id == id then f q else q) = (fun q => q.id == id) := by
    funext q
    by_cases hq : q.id = id <;> simp [hq, keeps]
  rw [same]
  cases h : (w.points r).find? (·.id == id) with
  | none => rfl
  | some q =>
    have hq : q.id = id := by simpa using List.find?_some h
    simp [hq]

/-- Counting changes no mount point. -/
theorem count_points {r r' : Nat} {f : Metrics → Metrics} {w w' : World} (run : (count r f).run w = .ok () w') :
    w'.scene.points r' = w.scene.points r' := by
  rw [count_run] at run
  cases run
  show (⟨w.doc, w.renderers.modify r (fun rd => { rd with metrics := rd.metrics.map f })⟩ : Scene).points r' = _
  rw [Scene.points_modify]
  split
  · rename_i same
    obtain ⟨rfl, -⟩ := same
    rfl
  · rfl

theorem count_unplaced {r r' id : Nat} {f : Metrics → Metrics} {w w' : World} (run : (count r f).run w = .ok () w')
    (h : w.scene.Unplaced r' id) : w'.scene.Unplaced r' id := by
  intro q hq
  exact h q (count_points run ▸ hq)

/-- Changing mount points without renumbering them or touching their elements places none. -/
theorem modifyPoint_unplaced {r id id' : Nat} {f : MountPoint → MountPoint} {w w' : World}
    (run : (modifyPoint r id f).run w = .ok () w') (keeps : ∀ q, (f q).id = q.id ∧ (f q).element = q.element)
    (h : w.scene.Unplaced r id') : w'.scene.Unplaced r id' := by
  rw [modifyPoint_run] at run
  cases run
  intro q hq same
  change q ∈ ((modifyPoint r id f).leaves w).points r at hq
  rw [points_modifyPoint] at hq
  obtain ⟨q', hq', rfl⟩ := List.mem_map.1 hq
  by_cases hit : q'.id = id
  · simp only [hit, beq_self_eq_true, if_true] at same ⊢
    rw [(keeps q').2]
    exact h q' hq' ((keeps q').1 ▸ same)
  · simp only [beq_iff_eq, hit, if_false] at same ⊢
    exact h q' hq' same

/-- Flagging a mount point as rendering changes the renderers alone and keeps every mount point; the
mount point found is found flagged. -/
theorem flag_ok {r id : Nat} {p : MountPoint} {w w₁ : World} (found : (w.scene.points r).find? (·.id == id) = some p)
    (run : (modifyPoint r id (fun p => { p with rendering := true })).run w = .ok () w₁) :
    w₁ = { w with renderers := w₁.renderers } ∧ w.scene.Grows r w₁.scene 0 ∧
      (w₁.scene.points r).find? (·.id == id) = some { p with rendering := true } := by
  have grows : w.scene.Grows r w₁.scene 0 := modifyPoint_grows run (fun q _ _ => .rendering q true)
  rw [modifyPoint_run] at run
  cases run
  refine ⟨rfl, grows, ?_⟩
  rw [find?_modifyPoint r id (fun p => { p with rendering := true }) (fun _ => rfl), found]
  rfl

theorem unflag_grows (r id : Nat) (w : World) :
    w.scene.Grows r ((modifyPoint r id (fun p => { p with rendering := false })).leaves w).scene 0 :=
  modifyPoint_grows (modifyPoint_run r id _ w) (fun q _ _ => .rendering q false)

/-- Registering a mount point under a vacant number adds it, findable by its number; the owner's
kids grow, which keeps every mount point. -/
theorem register_grows {r : Nat} {p : MountPoint} {owner : Option Nat} {w w' : World}
    (present : r < w.renderers.size) (vacant : ∀ q ∈ w.scene.points r, q.id ≠ p.id)
    (run : (register r p owner).run w = .ok () w') :
    w.scene.Grows r w'.scene 1 ∧ ∃ q, (w'.scene.points r).find? (·.id == p.id) = some q ∧ p.Kept q := by
  unfold register at run
  obtain ⟨_, w₁, added, run⟩ := bind_ok run
  obtain ⟨_, w₂, counted, run⟩ := bind_ok run
  have points₁ : w₁.scene.points r = w.scene.points r ++ [p] := by
    cases added
    show (⟨w.doc, w.renderers.modify r _⟩ : Scene).points r = _
    rw [Scene.points_modify, if_pos ⟨rfl, present⟩]
    rfl
  have first : w.scene.Grows r w₁.scene 1 := by
    refine ⟨?_, points₁ ▸ .append _ p⟩
    cases added
    exact .refl _
  have found₁ : (w₁.scene.points r).find? (·.id == p.id) = some p := by
    rw [points₁, List.find?_append, List.find?_eq_none.2 (fun q hq => by simpa using vacant q hq)]
    simp
  -- Counting and adopting keep every mount point.
  have adopted : w₂.scene.Grows r w'.scene 0 := by
    cases owner with
    | none =>
      cases run
      exact .refl _ _
    | some o => exact modifyPoint_grows run (fun q _ _ => ⟨rfl, fun _ h => h, rfl, rfl, rfl, rfl⟩)
  have rest : w₁.scene.Grows r w'.scene 0 := (count_grows counted).trans adopted
  obtain ⟨q, found, kept⟩ := rest.points.find? found₁
  exact ⟨first.trans rest, q, found, kept⟩

/-- Attaching a mount point's element makes a new element at the end of the store and appends it to
the container; the mount point, which had no element, now has it, and every mount point is kept. -/
theorem attach_ok {r id container : Nat} {tag : String} {el : Nat} {w w' : World}
    (run : (attach r id container tag).run w = .ok el w') (empty : w.scene.Unplaced r id) :
    el = w.doc.elements.size ∧ ((w.doc.create tag).1.appendChild container el).SameShapes w'.doc ∧
      Grown (w.scene.points r) (w'.scene.points r) 0 ∧
      ∀ q, (w.scene.points r).find? (·.id == id) = some q →
        (w'.scene.points r).find? (·.id == id) = some { q with element := some el } := by
  unfold attach at run
  obtain ⟨_, w₁, created, run⟩ := bind_ok run
  obtain ⟨_, w₂, appended, run⟩ := bind_ok run
  obtain ⟨_, w₃, pointed, run⟩ := bind_ok run
  cases run
  rw [createElement_run] at created
  cases created
  rw [modifyDoc_run] at appended
  cases appended
  -- The element goes to mount points of the number only, and those had none.
  have placed : ∀ q ∈ w.scene.points r, q.id = id → q.Kept { q with element := some w.doc.elements.size } := by
    intro q hq same
    refine ⟨rfl, fun _ h => ?_, rfl, rfl, rfl, rfl⟩
    rw [empty q hq same] at h
    cases h
  have kept : Grown (w.scene.points r) (w'.scene.points r) 0 := (modifyPoint_grows pointed placed).points
  rw [modifyPoint_run] at pointed
  cases pointed
  refine ⟨rfl, .refl _, kept, fun q found => ?_⟩
  rw [find?_modifyPoint r id (fun p => { p with element := some w.doc.elements.size }) (fun _ => rfl)]
  exact congrArg (Option.map _) found

/-- Props applied to an element change no element's tag or children, and no renderer. -/
theorem applyProps_shapes (r id el : Nat) (props : List Attr) (first : Bool) (d : Document Listener)
    (rs : Array Renderer) :
    ⦃fun w => ⌜d.SameShapes w.doc ∧ w.renderers = rs⌝⦄ applyProps r id el props first
    ⦃post⟨fun _ w => ⌜d.SameShapes w.doc ∧ w.renderers = rs⌝, fun _ _ => ⌜True⌝⟩⦄ := by
  have changed : ∀ f : Document Listener → Document Listener, (∀ d' : Document Listener, d'.SameShapes (f d')) →
      ⦃fun w => ⌜d.SameShapes w.doc ∧ w.renderers = rs⌝⦄ modifyDoc f
      ⦃⇓ _ w => ⌜d.SameShapes w.doc ∧ w.renderers = rs⌝⦄ := by
    intro f keeps
    mvcgen [modifyDoc] with
      exact ⟨(‹d.SameShapes _ ∧ _›).1.trans (keeps _), (‹d.SameShapes _ ∧ _›).2⟩
  have each : ∀ p, ⦃fun w => ⌜d.SameShapes w.doc ∧ w.renderers = rs⌝⦄ applyProp r id el first p
      ⦃post⟨fun _ w => ⌜d.SameShapes w.doc ∧ w.renderers = rs⌝, fun _ _ => ⌜True⌝⟩⦄ := by
    intro p
    have marked := changed _ (fun d' => Attr.sameShapes_mark p el d')
    have listened := fun event l => changed _ (fun d' => Document.SameShapes.addListener d' el event l)
    mvcgen [applyProp, marked, listened, fail] with grind
  mvcgen [applyProps, each] invariants
  · post⟨fun _ w => ⌜d.SameShapes w.doc ∧ w.renderers = rs⌝, fun _ _ => ⌜True⌝⟩

theorem applyProps_ok {r id el : Nat} {props : List Attr} {first : Bool} {w w' : World}
    (run : (applyProps r id el props first).run w = .ok () w') :
    w.doc.SameShapes w'.doc ∧ w'.renderers = w.renderers :=
  ok_of_triple (applyProps_shapes r id el props first w.doc w.renderers) ⟨.refl _, rfl⟩ run

/-- A render function never touches the document or the renderers. -/
theorem callRender_scene (n : Nat) (fn : RenderFn) (props : Props) (children : List Value) (s : Scene) :
    ⦃fun w => ⌜w.scene = s⌝⦄ callRender n fn props children
    ⦃post⟨fun _ w => ⌜w.scene = s⌝, fun _ _ => ⌜True⌝⟩⦄ := by
  rw [callRender.eq_def]
  cases n
  · mvcgen
  · cases fn <;> mvcgen [spend, inst, mark, note, modifyInst, stateRecord]

/-- A render call reads no renderer: from a world with other renderers it returns the same value and
leaves the same world with those renderers. -/
theorem callRender_run_renderers (n : Nat) (fn : RenderFn) (props : Props) (children : List Value) (w : World)
    (rs : Array Renderer) :
    (callRender n fn props children).run { w with renderers := rs } =
      match (callRender n fn props children).run w with
      | .ok c w' => .ok c { w' with renderers := rs }
      | .error e w' => .error e { w' with renderers := rs } := by
  cases n with
  | zero => rfl
  | succ n =>
    cases fn
    case script i =>
      -- The budget decides whether the call stops; nothing after it reads the renderers.
      rcases w with ⟨program, doc, renderers, states, capsets, timers, bus, busDisposers, instances, triggers,
        trace, budget⟩
      by_cases spent : budget = 0
      · subst spent
        rfl
      · have positive : (budget == 0) = false := by simpa using spent
        simp only [callRender, spend, inst, bind_run, get_run, set_run, pure_run, positive, Bool.false_eq_true,
          if_false]
        generalize instances.getD i default = ins
        rcases ins with ⟨script, name, caps, state, given, renders, disposers⟩
        cases state <;> rfl
    all_goals rfl

/-- The render call of a phase, made from the flagged world, returns what it returns from the world
before, and leaves the flagged scene. -/
theorem callRender_flagged {n : Nat} {fn : RenderFn} {props : Props} {children : List Value} {c : Value}
    {w w₁ w₄ : World} (same : w₁ = { w with renderers := w₁.renderers })
    (run : (callRender n fn props children).run w₁ = .ok c w₄) :
    ∃ w₂, (callRender n fn props children).run w = .ok c w₂ ∧ w₄.scene = w₁.scene := by
  have doc₁ : w₁.doc = w.doc := by rw [same]
  rw [same, callRender_run_renderers] at run
  split at run
  · rename_i c' w₂ renders
    cases run
    have doc₂ : w₂.doc = w.doc :=
      congrArg Scene.doc (ok_of_triple (callRender_scene n fn props children w.scene) rfl renders)
    refine ⟨w₂, renders, ?_⟩
    show (⟨w₂.doc, w₁.renderers⟩ : Scene) = ⟨w₁.doc, w₁.renderers⟩
    rw [doc₂, doc₁]
  · cases run

/-- A host render function rebuilds its node from its props and children. -/
theorem callRender_host (n : Nat) (s : String) (props : Props) (children : List Value) (w : World) :
    (callRender (n + 1) (.host s) props children).run w = .ok (.node (hostItems s props children)) w := by
  cases props <;> rfl

/-- A host render function, at any fuel, outputs what its node's own rebuild places. -/
theorem host_outputs {n : Nat} {p : MountPoint} {s : String} {fs : List Form} {k : Nat} (host : p.render = .host s)
    (places : Places (.node (hostItems s p.props p.children)) fs k) {w w₂ : World} {c : Value}
    (run : (callRender n p.render p.props p.children).run w = .ok c w₂) : Places c fs k := by
  cases n with
  | zero =>
    rw [callRender] at run
    cases run
  | succ n =>
    rw [host, callRender_host] at run
    cases run
    exact places

/-- Whether a renderer clears on update is one of its options. -/
theorem clearOnUpdate_of_options {w w' : World} (h : w'.options = w.options) (r : Nat) :
    (w'.renderers.getD r Renderer.default).clearOnUpdate = (w.renderers.getD r Renderer.default).clearOnUpdate :=
  congrArg (fun o => (o r).2.2) h

/-- Mounting children keeps a world ready for mounting into an element. -/
theorem mountChildren_ready {n r : Nat} {cs : List Value} {into owner el : Nat} {w w' : World}
    (ready : Ready r el w) (run : (mountChildren n r cs into owner).run w = .ok () w') : Ready r el w' :=
  ready.of_later (ok_of_triple ((listenersKept n).mountChildren w.scene r cs into owner) (.refl ready.numbered) run)

theorem unflag_ready {r id el : Nat} {w : World} (ready : Ready r el w) :
    Ready r el ((modifyPoint r id (fun p => { p with rendering := false })).leaves w) :=
  ready.of_later (ok_of_noThrow (modifyPoint_later w.scene r id (fun p => { p with rendering := false }) (fun _ => rfl))
    (.refl ready.numbered) (modifyPoint_run r id _ w))

/-- What a render phase does with its mount point's output: a fragment's children go into the
container, a component node is mounted, and a host node's element is placed, given props and filled
with the node's children. -/
def placeOutput (n r id : Nat) (p : MountPoint) (first : Bool) (expr : Value) : Run Unit :=
  match expr.asNode?.bind split with
  | none => fail (.invalidNode (.emptyRender p.name))
  | some parts =>
    if parts.tag.isFragment then mountChildren n r parts.children p.container id
    else if (parts.tag.component?).isSome then mount n r expr p.container (some id)
    else
      match parts.tag with
      | .str name => do
        let el ← hostElement r id p name
        applyProps r id el (classify parts.props) first
        mountChildren n r parts.children el id
      | other => fail (.invalidNode (.unsupportedTag other.typeName))

/-- The world a render phase places its output from, against the one it started in: the mount point
is flagged and found so, and its render call counted, which changes no shape, no mount point and no
option, keeps the scene later, and places no element. -/
structure Prepared (r id : Nat) (p : MountPoint) (w w₅ : World) : Prop where
  grows : w.scene.Grows r w₅.scene 0
  later : w.scene.Later w₅.scene
  options : w₅.options = w.options
  found : (w₅.scene.points r).find? (·.id == id) = some { p with rendering := true }
  unplaced : w.scene.Unplaced r id → w₅.scene.Unplaced r id

/-- A render phase that finished: its mount point's render function returned an output from the world
the phase started in (the call reads no renderer), the output was placed from a prepared world, and
the flag was cleared last. -/
theorem renderPhase_ok {n r id : Nat} {first : Bool} {p : MountPoint} {w w' : World}
    (found : (w.scene.points r).find? (·.id == id) = some p) (numbered : w.scene.Numbered)
    (run : (renderPhase (n + 1) r id first).run w = .ok () w') :
    ∃ c w₂ w₅ w₆, (callRender n p.render p.props p.children).run w = .ok c w₂ ∧ Prepared r id p w w₅ ∧
      (placeOutput n r id { p with rendering := true } first c).run w₅ = .ok () w₆ ∧
      w' = (modifyPoint r id (fun p => { p with rendering := false })).leaves w₆ := by
  rw [renderPhase] at run
  obtain ⟨_, w₁, flagged, run⟩ := bind_ok run
  rw [andFinally_run _ (modifyPoint_run r id _)] at run
  split at run
  case h_2 => cases run
  rename_i w₆ body
  cases run
  obtain ⟨same₁, flagKept, found₁⟩ := flag_ok found flagged
  have later₁ : w.scene.Later w₁.scene :=
    ok_of_noThrow (modifyPoint_later w.scene r id (fun p => { p with rendering := true }) (fun _ => rfl))
      (.refl numbered) flagged
  have options₁ : w₁.options = w.options := ok_of_noThrow (modifyPoint_options w.options r id _) rfl flagged
  obtain ⟨x, w₃, looked, body⟩ := bind_ok body
  rw [point?_run, found₁] at looked
  cases looked
  obtain ⟨c, w₄, rendered, body⟩ := bind_ok body
  obtain ⟨w₂, renders, scene₄⟩ := callRender_flagged same₁ rendered
  obtain ⟨_, w₅, counted, body⟩ := bind_ok body
  -- The render call left the flagged scene, so counting starts from it.
  have countKept : w₁.scene.Grows r w₅.scene 0 := scene₄ ▸ count_grows counted
  have later₅ : w.scene.Later w₅.scene := ok_of_noThrow (count_later w.scene r _) (scene₄ ▸ later₁) counted
  have options₄ : w₄.options = w₁.options := by
    unfold World.options
    rw [show w₄.renderers = w₁.renderers from congrArg Scene.renderers scene₄]
  have options₅ : w₅.options = w.options :=
    (ok_of_noThrow (count_options w₄.options r _) rfl counted).trans (options₄.trans options₁)
  have found₅ : (w₅.scene.points r).find? (·.id == id) = some { p with rendering := true } := by
    rw [count_points counted, scene₄, found₁]
  refine ⟨c, w₂, w₅, w₆, renders, ⟨flagKept.trans countKept, later₅, options₅, found₅, fun empty => ?_⟩, body, rfl⟩
  exact count_unplaced counted (scene₄ ▸ modifyPoint_unplaced flagged (fun _ => ⟨rfl, rfl⟩) empty)

/-- Mounting content with no component in it, at one fuel: what mounting a value, the first render
phase of a host mount point and mounting children append, when they finish. -/
structure PlainMounting (n : Nat) : Prop where
  mount : ∀ r v into (owner : Option Nat) fs k (w w' : World), Mounts v fs k → Ready r into w →
    (mount n r v into owner).run w = .ok () w' → Appended r into w.scene w'.scene fs k
  renderPhase : ∀ r id (p : MountPoint) s fs k (w w' : World),
    (w.scene.points r).find? (·.id == id) = some p → p.render = .host s →
    Places (.node (hostItems s p.props p.children)) fs k → w.scene.Unplaced r id → Ready r p.container w →
    (renderPhase n r id true).run w = .ok () w' → Appended r p.container w.scene w'.scene fs k
  mountChildren : ∀ r cs into owner fs k (w w' : World), MountsAll cs fs k → Ready r into w →
    (mountChildren n r cs into owner).run w = .ok () w' → Appended r into w.scene w'.scene fs k

section Plain

variable {n : Nat} (ih : PlainMounting n)
include ih

/-- The first render phase of a mount point with no element, when it finishes: it places what its
render function outputs, a fragment's children or one element, into the container. When the output
is a host node, the element is new and the mount point keeps it. -/
theorem firstPhase_appends (r id : Nat) (p : MountPoint) {fs : List Form} {k : Nat} {w w' : World}
    (found : (w.scene.points r).find? (·.id == id) = some p)
    (outputs : ∀ c w₂, (callRender n p.render p.props p.children).run w = .ok c w₂ → Places c fs k)
    (empty : w.scene.Unplaced r id) (ready : Ready r p.container w)
    (run : (renderPhase (n + 1) r id true).run w = .ok () w') :
    Appended r p.container w.scene w'.scene fs k ∧ Ready r p.container w' ∧
      ∀ s gs, fs = [.element s gs] →
        (∀ c w₂, (callRender n p.render p.props p.children).run w = .ok c w₂ → HostRender c s gs k) →
        Rendered r p.container p w.scene w'.scene s gs k := by
  obtain ⟨c, w₃, w₅, w₂, renders, prep, body, rfl⟩ := renderPhase_ok found ready.numbered run
  have pid : p.id = id := by simpa using List.find?_some found
  have ready₅ : Ready r p.container w₅ := ready.of_later prep.later
  have unflagKept := unflag_grows r id w₂
  rcases outputs c w₃ renders with ⟨parts, parted, tag, all⟩ | ⟨s, gs, ⟨parts, parted, tag, other, all⟩, rfl⟩
  · -- A fragment's children go into the container; the output is no host node.
    simp only [placeOutput, parted, tag, Value.isFragment, beq_self_eq_true, if_true] at body
    refine ⟨.within prep.grows (ih.mountChildren r parts.children p.container id fs k w₅ w₂ all ready₅ body) unflagKept,
      unflag_ready (mountChildren_ready ready₅ body), fun s gs _ host => ?_⟩
    exact absurd ⟨parts, parted, tag, all⟩ (host c w₃ renders).not_fragment
  · have notFragment : (s == fragmentTag) = false := by simpa using other
    simp only [placeOutput, parted, tag, Value.isFragment, notFragment, Value.component?, Option.isSome_none,
      Bool.false_eq_true, if_false] at body
    -- The element is new: the mount point found has none on its first pass.
    have none : p.element = none := empty p (List.mem_of_find?_eq_some found) pid
    obtain ⟨el, w₆, placedEl, body⟩ := bind_ok body
    have later₆ := (ok_of_noThrow (hostElement_later w.scene r id _ s) prep.later placedEl).1
    simp only [hostElement, none] at placedEl
    obtain ⟨rfl, attached, pointsKept, moved⟩ := attach_ok placedEl (prep.unplaced empty)
    obtain ⟨_, w₇, applied, body⟩ := bind_ok body
    obtain ⟨shapes₇, renderers₇⟩ := applyProps_ok applied
    have points₇ : w₇.scene.points r = w₆.scene.points r := by
      simp only [Scene.points, World.scene, renderers₇]
    have ready₇ : Ready r w₅.doc.elements.size w₇ := by
      refine ⟨Scene.numbered_of_renderers renderers₇ later₆.numbered, ?_, ?_⟩
      · have size₆ : w₆.renderers.size = w.renderers.size := later₆.size
        rw [renderers₇, size₆]
        exact ready.renderer
      · rw [shapes₇.size, attached.size]
        simp [Document.appendChild]
    -- The mount point, flagged, is found with the new element.
    have placed : ∃ q, (w₇.scene.points r).find? (·.id == p.id) = some q ∧ p.Kept q ∧
        q.element = some w₅.doc.elements.size := by
      subst pid
      refine ⟨{ p with rendering := true, element := some w₅.doc.elements.size }, by rw [points₇, moved _ prep.found],
        ⟨rfl, fun _ h => ?_, rfl, rfl, rfl, rfl⟩, rfl⟩
      rw [none] at h
      cases h
    have inner := ih.mountChildren r parts.children _ id gs k w₇ w₂ all ready₇ body
    have attached₇ : ((w₅.scene.doc.create s).1.appendChild p.container w₅.scene.doc.elements.size).SameShapes
        w₇.scene.doc := attached.trans shapes₇
    have grown₇ : Grown (w₅.scene.points r) (w₇.scene.points r) 0 := points₇ ▸ pointsKept
    have rendered : Rendered r p.container p w.scene _ s gs k :=
      (Rendered.attach ready₅.into attached₇ grown₇ placed inner).within prep.grows unflagKept
    have ready₇' : Ready r p.container w₇ := by
      refine ⟨ready₇.numbered, ready₇.renderer, ?_⟩
      have := ready₅.into
      have := ready₇.into
      omega
    refine ⟨rendered.appended, unflag_ready (mountChildren_ready ready₇' body), fun s' gs' same _ => ?_⟩
    simp only [List.cons.injEq, Form.element.injEq, and_true] at same
    obtain ⟨rfl, rfl⟩ := same
    exact rendered

/-- Mounting a node with a host tag reserves a vacant number, registers the mount point under it and
runs its first render phase. -/
theorem mount_host_appends {r : Nat} {v : Value} {into : Nat} {owner : Option Nat} {items : List Value}
    {parts : Parts} {s : String} {fs : List Form} {k : Nat} {w w' : World} (hv : v.asNode? = some items)
    (hs : split items = some parts) (ht : parts.tag = .str s)
    (places : Places (.node (hostItems s parts.props parts.children)) fs k)
    (ready : Ready r into w) (run : (mount (n + 1) r v into owner).run w = .ok () w') :
    Appended r into w.scene w'.scene fs (k + 1) := by
  rw [mount] at run
  simp only [hv, hs] at run
  obtain ⟨id, w₁, reserved, run⟩ := bind_ok run
  obtain ⟨later₁, after, vacant⟩ := ok_of_noThrow (reserve_later w.scene r) (.refl ready.numbered) reserved
  simp only [ht, Value.component?] at run
  obtain ⟨_, w₂, named, run⟩ := bind_ok run
  cases named
  obtain ⟨_, w₃, registered, run⟩ := bind_ok run
  obtain ⟨later₃, awaits₃⟩ := ok_of_noThrow (register_later w.scene r _ owner after rfl) ⟨later₁, vacant⟩ registered
  obtain ⟨grows₃, q, found, kept⟩ := register_grows (later₁.size ▸ ready.renderer) vacant.2 registered
  have ready₃ : Ready r q.container w₃ := kept.container ▸ ready.of_later later₃
  have phase := ih.renderPhase r id q s fs k w₃ w' found kept.render (kept.props ▸ kept.children ▸ places)
    awaits₃.2 ready₃ run
  rw [kept.container] at phase
  simpa [Nat.add_comm] using phase.grows_left ((reserve_grows reserved).trans grows₃)

theorem mount_appends (r : Nat) (v : Value) (into : Nat) (owner : Option Nat) {fs : List Form} {k : Nat}
    {w w' : World} (mounts : Mounts v fs k) (ready : Ready r into w)
    (run : (mount (n + 1) r v into owner).run w = .ok () w') : Appended r into w.scene w'.scene fs k := by
  cases mounts with
  | text notNode =>
    rw [mount] at run
    simp only [notNode] at run
    rw [fail_run] at run
    cases run
  | element hv hs ht other rebuilt all =>
    exact mount_host_appends ih hv hs ht (.inr ⟨_, _, ⟨_, rebuilt, split_hostItems_tag rebuilt, other, all⟩, rfl⟩)
      ready run
  | fragment hv hs ht rebuilt all =>
    exact mount_host_appends ih hv hs ht (.inl ⟨_, rebuilt, split_hostItems_tag rebuilt, all⟩) ready run

theorem mountChildren_appends (r : Nat) (cs : List Value) (into owner : Nat) {fs : List Form} {k : Nat}
    {w w' : World} (all : MountsAll cs fs k) (ready : Ready r into w)
    (run : (mountChildren (n + 1) r cs into owner).run w = .ok () w') : Appended r into w.scene w'.scene fs k := by
  cases all with
  | nil =>
    rw [mountChildren] at run
    cases run
    exact .refl r into _
  | cons first rest =>
    rename_i c cs fs₁ gs k₁ m
    rw [mountChildren] at run
    -- A node child is mounted, any other value's text appended; the rest follow.
    have step : ∃ w₁, Appended r into w.scene w₁.scene fs₁ k₁ ∧ Ready r into w₁ ∧
        (mountChildren n r cs into owner).run w₁ = .ok () w' := by
      split at run
      · obtain ⟨_, w₁, head, run⟩ := bind_ok run
        have later := ok_of_triple ((listenersKept n).mount w.scene r c into (some owner)) (.refl ready.numbered) head
        exact ⟨w₁, ih.mount r c into (some owner) fs₁ k₁ w w₁ first ready head, ready.of_later later, run⟩
      · rename_i notNode
        obtain ⟨_, w₁, head, run⟩ := bind_ok run
        rw [modifyDoc_run] at head
        cases head
        cases first with
        | text _ =>
          refine ⟨{ w with doc := w.doc.appendText into c.text }, .text r into w.scene c.text,
            ready.mono ready.numbered rfl ?_, run⟩
          simp [Document.appendText]
        | element hv => simp [hv] at notNode
        | fragment hv => simp [hv] at notNode
    obtain ⟨w₁, appended, ready₁, run⟩ := step
    exact appended.trans ready.into (ih.mountChildren r cs into owner gs m w₁ w' rest ready₁ run)

omit ih in
theorem PlainMounting.zero : PlainMounting 0 where
  mount _ _ _ _ _ _ _ _ _ _ run := by
    rw [Run.mount] at run
    cases run
  renderPhase _ _ _ _ _ _ _ _ _ _ _ _ _ run := by
    rw [Run.renderPhase] at run
    cases run
  mountChildren _ _ _ _ _ _ _ _ _ _ run := by
    rw [Run.mountChildren] at run
    cases run

theorem PlainMounting.succ : PlainMounting (n + 1) where
  mount r v into owner _ _ _ _ mounts ready run := mount_appends ih r v into owner mounts ready run
  renderPhase r id p _ _ _ _ _ found host places empty ready run :=
    (firstPhase_appends ih r id p found (fun _ _ rendered => host_outputs host places rendered) empty ready run).1
  mountChildren r cs into owner _ _ _ _ all ready run := mountChildren_appends ih r cs into owner all ready run

end Plain

/-- Content with no component in it mounts as its forms, at every fuel. -/
theorem plainMounting : ∀ n, PlainMounting n
  | 0 => .zero
  | n + 1 => (plainMounting n).succ

/-- A re-render of a mount point with an element, by a renderer that does not clear on update, when
it finishes: the host node its render function outputs keeps the element, and the node's children
are mounted into it after what it holds. -/
theorem update_appends {n r : Nat} {K : MountPoint} {el : Nat} {s : String} {fs : List Form} {k : Nat}
    {w w' : World} (found : (w.scene.points r).find? (·.id == K.id) = some K) (elt : K.element = some el)
    (keep : (w.renderers.getD r Renderer.default).clearOnUpdate = false) (ready : Ready r el w)
    (outputs : ∀ c w₂, (callRender n K.render K.props K.children).run w = .ok c w₂ → HostRender c s fs k)
    (run : (update (n + 2) r K.id).run w = .ok () w') :
    Appended r el w.scene w'.scene fs k := by
  have phase : (renderPhase (n + 1) r K.id false).run w = .ok () w' := by
    rw [update, recover_run] at run
    split at run
    · cases run
    · exact run
  obtain ⟨c, w₂, w₅, w₃, renders, prep, body, rfl⟩ := renderPhase_ok found ready.numbered phase
  -- The element is the mount point's own, and the renderer, whose options no step changes, does not
  -- clear it.
  have keep₅ : (w₅.renderers.getD r Renderer.default).clearOnUpdate = false :=
    (clearOnUpdate_of_options prep.options r).trans keep
  obtain ⟨parts, parted, tag, other, all⟩ := outputs c w₂ renders
  have notFragment : (s == fragmentTag) = false := by simpa using other
  simp only [placeOutput, parted, tag, Value.isFragment, notFragment, Value.component?, Option.isSome_none,
    Bool.false_eq_true, if_false] at body
  obtain ⟨el', w₆, placed, body⟩ := bind_ok body
  simp only [hostElement, elt] at placed
  obtain ⟨rd, w₆', read, placed⟩ := bind_ok placed
  cases read
  simp only [keep₅, Bool.false_eq_true, if_false] at placed
  cases placed
  obtain ⟨_, w₇, applied, body⟩ := bind_ok body
  obtain ⟨shapes₇, renderers₇⟩ := applyProps_ok applied
  have before : w.scene.Grows r w₇.scene 0 := prep.grows.trans (.of_shapes shapes₇ renderers₇)
  have ready₇ : Ready r el w₇ := ready.mono (Scene.numbered_of_renderers renderers₇ prep.later.numbered)
    ((congrArg Array.size renderers₇).trans prep.later.size) (Nat.le_of_eq before.shapes.size.symm)
  have inner := (plainMounting n).mountChildren r parts.children el K.id fs k w₇ w₃ all ready₇ body
  exact Appended.within before inner (unflag_grows r K.id w₃)

/-- The first render phase of a mount point and then `n` re-renders of it, each from the world the
one before left, with render calls of depth `fuel`: the worlds the renders started from, in order,
and the world the last one left; nothing once one of them stops. -/
def renderSeries (fuel r id : Nat) : Nat → World → Option (List World × World)
  | 0, w =>
    match (renderPhase (fuel + 1) r id true).run w with
    | .ok () w' => some ([w], w')
    | .error _ _ => none
  | n + 1, w =>
    match renderSeries fuel r id n w with
    | none => none
    | some (ws, w') =>
      match (update (fuel + 2) r id).run w' with
      | .ok () w'' => some (ws ++ [w'], w'')
      | .error _ _ => none

section Series

variable {fuel r : Nat} {K : MountPoint} {s : String} {fs : World → List Form} {k : World → Nat} {w : World}

/-- The render phases of a series that finished, by induction on the re-renders: the first placed the
element, and each re-render appended to it; the world stays ready and keeps its options. -/
theorem renderSeries_rendered (ready : Ready r K.container w)
    (found : (w.scene.points r).find? (·.id == K.id) = some K) (empty : w.scene.Unplaced r K.id)
    (keep : (w.renderers.getD r Renderer.default).clearOnUpdate = false) :
    ∀ n ws w', renderSeries fuel r K.id n w = some (ws, w') →
      (∀ v ∈ ws, ∀ c w₂, (callRender fuel K.render K.props K.children).run v = .ok c w₂ →
        HostRender c s (fs v) (k v)) →
      ws.length = n + 1 ∧ Rendered r K.container K w.scene w'.scene s (ws.map fs).flatten (ws.map k).sum ∧
        Ready r w.doc.elements.size w' ∧ w'.options = w.options := by
  intro n
  induction n with
  | zero =>
    intro ws w' series outputs
    rw [renderSeries] at series
    split at series
    · rename_i w₁ run
      cases series
      have outputs₀ := outputs w (List.mem_singleton_self w)
      have first := firstPhase_appends (plainMounting fuel) r K.id K found
        (fun c w₂ rendered => .inr ⟨s, fs w, outputs₀ c w₂ rendered, rfl⟩) empty ready run
      have rendered := first.2.2 s (fs w) rfl outputs₀
      obtain ⟨children, shape, -⟩ := rendered.element
      refine ⟨rfl, by simpa using rendered, ⟨first.2.1.numbered, first.2.1.renderer, Document.lt_of_shapeAt shape⟩,
        ok_of_triple ((optionsKept (fuel + 1)).renderPhase w.options r K.id true) rfl run⟩
    · cases series
  | succ n ih =>
    intro ws w' series outputs
    rw [renderSeries] at series
    split at series
    · cases series
    · rename_i ws₀ w₀ earlier
      split at series
      · rename_i w' run
        cases series
        obtain ⟨length, rendered, ready₀, options₀⟩ :=
          ih ws₀ w₀ earlier (fun v mem => outputs v (List.mem_append_left _ mem))
        have later : w₀.scene.Later w'.scene :=
          ok_of_triple ((listenersKept (fuel + 2)).update w₀.scene r K.id) (.refl ready₀.numbered) run
        have options : w'.options = w.options :=
          (ok_of_triple ((optionsKept (fuel + 2)).update w₀.options r K.id) rfl run).trans options₀
        -- The mount point is still found, kept, with its element; the re-render appends to it.
        obtain ⟨q, found₀, kept, elt⟩ := rendered.point
        have found₀' : (w₀.scene.points r).find? (·.id == q.id) = some q := by
          rw [kept.id]
          exact found₀
        have outputs₀ : ∀ c w₂, (callRender fuel q.render q.props q.children).run w₀ = .ok c w₂ →
            HostRender c s (fs w₀) (k w₀) := by
          intro c w₂ rendered
          rw [kept.render, kept.props, kept.children] at rendered
          exact outputs w₀ (List.mem_append_right _ (List.mem_singleton_self w₀)) c w₂ rendered
        have appended : Appended r w.doc.elements.size w₀.scene w'.scene (fs w₀) (k w₀) :=
          update_appends found₀' elt ((clearOnUpdate_of_options options₀ r).trans keep) ready₀ outputs₀
            (by rw [kept.id]; exact run)
        have forms : ((ws₀ ++ [w₀]).map fs).flatten = (ws₀.map fs).flatten ++ fs w₀ := by simp
        have count : ((ws₀ ++ [w₀]).map k).sum = (ws₀.map k).sum + k w₀ := by simp
        refine ⟨by simp [length], ?_, ready₀.of_later later, options⟩
        rw [forms, count]
        exact rendered.append ready.into appended
      · cases series

/-- Append-mode re-rendering. Take a mount point `K` with no element yet, in a renderer that does not
clear on update, and run its first render phase and then `n` re-renders, each from the world the one
before left. When they all finish, and the output of its render function at the start of each is a
host node of tag `s` whose children mount, with no component among them, as the forms `fs v` and
`k v` mount points: the container holds its old children and then one new element, `K`'s, of tag
`s`, whose children show the forms of each output, first to last; every other element keeps its tag
and children; and the renderer's mount points are those before, all kept, and as many new ones as
the outputs' children mount, none released. -/
theorem rerenders_append_children {n : Nat} {ws : List World} {w' : World} (ready : Ready r K.container w)
    (found : (w.scene.points r).find? (·.id == K.id) = some K) (empty : w.scene.Unplaced r K.id)
    (keep : (w.renderers.getD r Renderer.default).clearOnUpdate = false)
    (finishes : renderSeries fuel r K.id n w = some (ws, w'))
    (outputs : ∀ v ∈ ws, ∀ c w₂, (callRender fuel K.render K.props K.children).run v = .ok c w₂ →
      HostRender c s (fs v) (k v)) :
    ws.length = n + 1 ∧ Rendered r K.container K w.scene w'.scene s (ws.map fs).flatten (ws.map k).sum :=
  (renderSeries_rendered ready found empty keep n ws w' finishes outputs).imp_right And.left

/-- A mount point rendering a `div` around a text and a `p` holding an `i`, registered in the one
renderer of a document holding a body, rendered and then re-rendered twice: the renders finish, and
the body holds one new `div` that shows the text, the `p` and its `i` three times over, with six new
mount points, two for each render. -/
theorem nested_children_rerender_append :
    let K : MountPoint := ⟨1, "div", 0, none, .host "div", none, [.str "hi", .node [.str "p", .node [.str "i"]]],
      false, []⟩
    let w : World := { World.fresh Program.empty #[{ Renderer.default with next := 1, points := [K] }] with
      doc := (Host.Document.empty.create "body").1 }
    let forms : List Form := [.text (Value.str "hi").text, .element "p" [.element "i" []]]
    Ready 0 K.container w ∧ (w.scene.points 0).find? (·.id == K.id) = some K ∧ w.scene.Unplaced 0 K.id ∧
      (w.renderers.getD 0 Renderer.default).clearOnUpdate = false ∧
      ∃ ws w', renderSeries 8 0 K.id 2 w = some (ws, w') ∧ ws.length = 3 ∧
        Rendered 0 K.container K w.scene w'.scene "div" (forms ++ forms ++ forms) 6 := by
  intro K w forms
  -- The renderer's one mount point has the number it handed out last, and no element.
  have numbered : w.scene.Numbered := Scene.numbered_one _ _ (by decide)
  have ready : Ready 0 K.container w := ⟨numbered, by decide, by decide⟩
  have found : (w.scene.points 0).find? (·.id == K.id) = some K := rfl
  have empty : w.scene.Unplaced 0 K.id := by
    intro q mem _
    change q ∈ [K] at mem
    rw [List.mem_singleton] at mem
    subst mem
    rfl
  have keep : (w.renderers.getD 0 Renderer.default).clearOnUpdate = false := rfl
  -- The host render function outputs its own node from every world; the `p` and the `i` each take
  -- a mount point.
  have outputs : ∀ v c w₂, (callRender 8 K.render K.props K.children).run v = .ok c w₂ →
      HostRender c "div" forms 2 := by
    intro v c w₂ run
    rw [show K.render = .host "div" from rfl, callRender_host] at run
    cases run
    have inner : Mounts (.node [.str "i"]) [.element "i" []] 1 := .element rfl rfl rfl (by decide) rfl .nil
    have outer : Mounts (.node [.str "p", .node [.str "i"]]) [.element "p" [.element "i" []]] 2 :=
      .element rfl rfl rfl (by decide) rfl (.cons inner .nil)
    have children : MountsAll K.children ([.text (Value.str "hi").text] ++ ([.element "p" [.element "i" []]] ++ []))
        (0 + (2 + 0)) :=
      .cons (.text rfl) (.cons outer .nil)
    exact ⟨⟨.str "div", none, K.children⟩, rfl, rfl, by decide, children⟩
  -- The three renders finish, as running them shows.
  have finishes : (renderSeries 8 0 K.id 2 w).isSome = true := by
    dsimp only [K, w]
    decide +kernel
  cases series : renderSeries 8 0 K.id 2 w with
  | none =>
    rw [series] at finishes
    cases finishes
  | some result =>
    obtain ⟨length, rendered⟩ := rerenders_append_children ready found empty keep series (fun v _ => outputs v)
    -- Each of the three renders shows the same forms and adds the same two mount points.
    have shown : (result.1.map fun _ => forms).flatten = forms ++ forms ++ forms := by
      rw [List.map_const', length]
      simp
    have counted : (result.1.map fun _ => 2).sum = 6 := by
      rw [List.map_const', length]
      rfl
    refine ⟨ready, found, empty, keep, result.1, result.2, rfl, length, ?_⟩
    rw [← shown, ← counted]
    exact rendered

/-- Re-rendering appends only what was mounted: a first render phase that stops leaves its children
out. A scripted component renders a `div` holding a `p`, with an `onclick` prop that is a text, and
then a `div` holding an `i`; both outputs are host nodes of one tag whose children are host nodes.
The Mount stops on the prop before the `p` is mounted, and a re-render then appends the `i`: the
component's element holds the `i` alone, not the `p` and then the `i`. -/
theorem stopped_mount_skips_first_children :
    let S : Script := ⟨"S", .component, false, .none, [],
      [.list false [.value (.str "div"), .props [("onclick", .value (.str "x"))], .list false [.value (.str "p")]],
        .list false [.value (.str "div"), .list false [.value (.str "i")]]]⟩
    let w : World := { World.fresh ⟨#[S], #[], PropsDecoder.zero⟩ #[{ Renderer.default with plugins := [.trigger] }] with
      doc := (Host.Document.empty.create "body").1 }
    let w' := Call.runAll 0 [Call.mount (.list [.component (.script 0) .component]) 0,
      Call.trigger (.mountPoint 0 1)] w
    (∀ c, HostRender (S.output 0 c) "div" [.element "p" []] 1 ∧ HostRender (S.output 1 c) "div" [.element "i" []] 1) ∧
      ((w'.scene.points 0).find? (·.id == 1)).map (·.element) = some (some 1) ∧
      w'.doc.shapeAt 1 = some ("div", [.element 2]) ∧ w'.doc.shapeAt 2 = some ("i", []) ∧
      ¬ w'.doc.Shows 2 [.element 2] ([.element "p" []] ++ [.element "i" []]) := by
  intro S w w'
  -- Each output's one child is a host node with no children.
  have outputs : ∀ c, HostRender (S.output 0 c) "div" [.element "p" []] 1 ∧
      HostRender (S.output 1 c) "div" [.element "i" []] 1 := by
    intro c
    exact ⟨⟨_, rfl, rfl, by decide, .cons (.element rfl rfl rfl (by decide) rfl .nil) .nil⟩,
      ⟨_, rfl, rfl, by decide, .cons (.element rfl rfl rfl (by decide) rfl .nil) .nil⟩⟩
  -- Running the calls shows the element and what it holds.
  have element : ((w'.scene.points 0).find? (·.id == 1)).map (·.element) = some (some 1) := by
    dsimp only [w', w, S]
    decide +kernel
  have holds : w'.doc.shapeAt 1 = some ("div", [.element 2]) := by
    dsimp only [w', w, S]
    decide +kernel
  have inner : w'.doc.shapeAt 2 = some ("i", []) := by
    dsimp only [w', w, S]
    decide +kernel
  refine ⟨outputs, element, holds, inner, fun shows => ?_⟩
  -- One child element shows one form, not two.
  cases shows with
  | element _ _ _ rest => cases rest

end Series

end Run

end ViewEngine
