import Mathlib
import ViewEngine.Proofs.Live.Attachment
import ViewEngine.Engine.Api

/-! Engine steps the mount point invariant cannot see: counting, composing and exercising
capabilities, running inert actions, setting components up, calling render functions and applying
props. Each has one triple relating the world before to the world after; the render phases and the
handlers cite these triples and never unfold the steps. -/

namespace ViewEngine

open Host Std.Do

set_option mvcgen.warning false

/-- A relation between documents that holds of each change a mark can make, and chains, holds
between a document and the document with a prop's marks. -/
theorem Attr.mark_rel {L : Type} (R : Document L → Document L → Prop) (refl : ∀ d, R d d)
    (trans : ∀ {d₁ d₂ d₃ : Document L}, R d₁ d₂ → R d₂ d₃ → R d₁ d₃)
    (addClass : ∀ d el name, R d (d.addClass el name))
    (setDataset : ∀ d el key value, R d (d.setDataset el key value))
    (setProperty : ∀ d el name value, R d (d.setProperty el name value))
    (deleteProperty : ∀ d el name, R d (d.deleteProperty el name))
    (setAttribute : ∀ d el name value, R d (d.setAttribute el name value))
    (p : Attr) (el : Nat) (d : Document L) : R d (p.mark el d) := by
  have data : ∀ (entries : List (String × Value)) (d : Document L),
      R d (entries.foldl (fun d kv => d.setDataset el kv.1 kv.2.text) d) := by
    intro entries
    induction entries with
    | nil => exact refl
    | cons kv rest ih => exact fun d => trans (setDataset d el _ _) (ih _)
  -- The marks are applied in order: class, data, flag, plain. The plain mark is peeled off first, then
  -- the class mark is generalized; what is left is split on the flag and then on the data mapping.
  have plain : ∀ x : Document L, R x (if p.isPlain then x.setAttribute el p.name p.value.text else x) := by
    intro x
    split
    · exact setAttribute x el _ _
    · exact refl x
  have classMark : R d (if p.isClass then d.addClass el p.value.text else d) := by
    split
    · exact addClass d el _
    · exact refl d
  unfold Attr.mark
  refine trans ?_ (plain _)
  generalize (if p.isClass then d.addClass el p.value.text else d) = d₁ at classMark ⊢
  refine trans classMark ?_
  split
  case' h_1 => refine trans ?_ (setProperty _ el _ _)
  case' h_2 => refine trans ?_ (trans (deleteProperty _ el _) (setProperty _ el _ _))
  -- In each flag case the data mark is the one applied right after the class mark.
  all_goals
    split
    · exact data _ _
    · exact refl _

/-- The marks of a prop change attributes and properties only, never the element tree. -/
theorem Attr.sameTree_mark {L : Type} (p : Attr) (el : Nat) (d : Document L) :
    d.SameTree (p.mark el d) :=
  Attr.mark_rel Document.SameTree .refl (fun h₁ h₂ => h₁.trans h₂) .addClass .setDataset .setProperty
    .deleteProperty .setAttribute p el d

/-- Every script a steady program can name, the default one included, renders with one yield and
sets up inertly. -/
theorem Program.Steady.getD {prog : Program} (steady : prog.Steady) (s : Nat) :
    (∃ y, (prog.scripts.getD s default).Yields y) ∧ ∀ a ∈ (prog.scripts.getD s default).setup, a.Inert := by
  by_cases inside : s < prog.scripts.size
  · have mem : prog.scripts.getD s default ∈ prog.scripts := by
      rw [Array.getD_eq_getD_getElem?, Array.getElem?_eq_getElem inside]
      exact Array.getElem_mem inside
    exact steady _ mem
  · -- Past the end stands the default script, which renders nothing and sets nothing up.
    rw [Array.getD_eq_getD_getElem?, Array.getElem?_eq_none (Nat.le_of_not_lt inside)]
    exact ⟨⟨.element, fun t ht => absurd ht List.not_mem_nil⟩, fun a ha => absurd ha List.not_mem_nil⟩

/-- Under a steady program every render function yields one way. -/
theorem RenderFn.yields_of_steady {v : Layout} (steady : v.program.Steady) :
    ∀ fn, ∃ y, RenderFn.Yields v fn y
  | .host _ => ⟨_, rfl⟩
  | .godspeedYou => ⟨.element, rfl⟩
  | .stateful => ⟨.container, rfl⟩
  | .counter .. => ⟨.element, rfl⟩
  | .greeter _ => ⟨.element, rfl⟩
  | .page => ⟨.element, rfl⟩
  | .clock => ⟨.element, rfl⟩
  | .script _ => (steady.getD _).1

theorem World.layout_eq (w : World) : w.layout = ⟨w.program, w.doc, w.renderers, w.instances⟩ := rfl

namespace World

/-- Changing a renderer is unseen when its mount points keep their shapes and its count of handed
out numbers does not go down. -/
theorem retouch_renderers (w : World) (r : Nat) (f : Renderer → Renderer)
    (shapes : ∀ rd, (f rd).points.map MountPoint.shape = rd.points.map MountPoint.shape)
    (next : ∀ rd, rd.next ≤ (f rd).next) :
    w.layout.Retouch { w with renderers := w.renderers.modify r f }.layout where
  frame := ⟨rfl, Array.size_modify .., Nat.le_refl _, fun _ _ => rfl⟩
  tree := .refl _
  shapes r' := by
    simp only [World.layout, Layout.points, Array.getD_modify]
    split
    · exact shapes _
    · rfl
  next r' := by
    simp only [World.layout, Layout.next, Array.getD_modify]
    split
    · exact next _
    · exact Nat.le_refl _

/-- Changing the document without touching the element tree is unseen. -/
theorem retouch_doc (w : World) (d : Document Listener) (h : w.doc.SameTree d) :
    w.layout.Retouch { w with doc := d }.layout :=
  ⟨⟨rfl, rfl, Nat.le_refl _, fun _ _ => rfl⟩, h, fun _ => rfl, fun _ => Nat.le_refl _⟩

/-- Changing an instance without touching its script is unseen. -/
theorem retouch_instances (w : World) (i : Nat) (f : Instance → Instance)
    (keeps : ∀ ins, (f ins).script = ins.script) :
    w.layout.Retouch { w with instances := w.instances.modify i f }.layout where
  frame := by
    refine ⟨rfl, rfl, by simp [World.layout], fun j _ => ?_⟩
    simp only [World.layout, Array.getD_modify]
    split
    · exact keeps _
    · rfl
  tree := .refl _
  shapes _ := rfl
  next _ := Nat.le_refl _

/-- Adding an instance is unseen. -/
theorem retouch_push (w : World) (ins : Instance) :
    w.layout.Retouch { w with instances := w.instances.push ins }.layout where
  frame := by
    refine ⟨rfl, rfl, by simp [World.layout], fun j hj => ?_⟩
    have old : j ≠ w.instances.size := Nat.ne_of_lt hj
    simp only [World.layout, Array.getD_push, if_neg old]
  tree := .refl _
  shapes _ := rfl
  next _ := Nat.le_refl _

theorem program_of_retouch {w w' : World} (h : w.layout.Retouch w'.layout) : w'.program = w.program :=
  h.frame.program

theorem instances_of_retouch {w w' : World} (h : w.layout.Retouch w'.layout) :
    w.instances.size ≤ w'.instances.size :=
  h.frame.instances

/-- Reserving a number raises a present renderer's count by one. -/
theorem next_reserve (w : World) (r : Nat) (present : r < w.renderers.size) :
    { w with renderers := w.renderers.modify r (fun rd => { rd with next := rd.next + 1 }) }.layout.next r =
      w.layout.next r + 1 := by
  simp [World.layout, Layout.next, Array.getElem_modify, present]

end World


/-! What a render function's output says about where it goes. -/

/-- A rendered value puts its node where `y` says, whenever it is a node at all. -/
def Value.Renders (out : Value) (y : Yield) : Prop :=
  ∀ parts, out.asNode?.bind split = some parts → parts.tag.yield? = some y

/-- A rendered value goes wherever the render function yields in a layout. -/
def Value.Fits (out : Value) (v : Layout) (fn : RenderFn) : Prop := ∀ y, RenderFn.Yields v fn y → out.Renders y

theorem split_cons_tag (v : Value) (rest : List Value) {parts : Parts} (h : split (v :: rest) = some parts) :
    parts.tag = v := by
  simp only [split] at h
  split at h
  · split at h <;> (cases h; rfl)
  · cases h; rfl

theorem Value.renders_node {v : Value} (rest : List Value) {y : Yield} (h : v.yield? = some y) :
    (Value.node (v :: rest)).Renders y := by
  intro parts found
  rw [split_cons_tag v rest found]
  exact h

/-- The empty node has no parts, so it goes anywhere. -/
theorem Value.renders_empty (y : Yield) : (Value.node []).Renders y := by
  intro parts found
  simp [Value.asNode?, split] at found

/-- A template that writes out its tag renders where the tag says, whatever it is filled with. -/
theorem Template.renders_fill {t : Template} {y : Yield} (h : t.yield? = some y) (c : FillContext) :
    (t.fill c).rendered.Renders y := by
  unfold Template.yield? at h
  split at h
  · rename_i typed v rest
    cases typed <;> simpa [Template.fill, Template.fillItems, Value.rendered] using Value.renders_node _ h
  · exact Value.renders_node _ h
  · exact Value.renders_node _ h
  · cases h

/-- A script whose templates all yield alike renders that way on every call. -/
theorem Script.renders_output {s : Script} {y : Yield} (h : s.Yields y) (k : Nat) (c : FillContext) :
    (s.output k c).Renders y := by
  unfold Script.output
  split
  · exact Value.renders_empty y
  · rename_i first rest eq
    apply Template.renders_fill (h _ _) c
    have inside : Nat.min k (s.renders.length - 1) < s.renders.length := by
      rw [eq]
      simp only [List.length_cons, Nat.add_sub_cancel]
      exact Nat.lt_of_le_of_lt (Nat.min_le_right _ _) (Nat.lt_succ_self _)
    rw [List.getD_eq_getElem _ _ inside]
    exact List.getElem_mem inside

/-- The script an instance that was there renders with stays its script. -/
theorem World.scriptOf_of_retouch {v : Layout} {w : World} (h : v.Retouch w.layout) {i : Nat}
    (hi : i < v.instances.size) :
    w.program.scripts.getD (w.instances.getD i default).script default = v.scriptOf i :=
  h.frame.scriptOf hi

/-- A scripted render function that was there renders where its script yields. -/
theorem World.renders_script {v : Layout} {w : World} (h : v.Retouch w.layout) {i : Nat}
    (hi : i < v.instances.size) {y : Yield} (yields : RenderFn.Yields v (.script i) y) (k : Nat)
    (c : FillContext) :
    ((w.program.scripts.getD (w.instances.getD i default).script default).output k c).Renders y := by
  rw [World.scriptOf_of_retouch h hi]
  exact Script.renders_output yields k c

namespace Run

/-! Every step below is specified against an origin `v`: if the world is a retouch of `v` before the
step, it still is after it. Chained, such triples show a whole computation a retouch of its start. -/

section Primitives

variable (v : Layout)

theorem note_spec (n : Note) :
    ⦃fun w => ⌜v.Retouch w.layout⌝⦄ note n ⦃⇓ _ w => ⌜v.Retouch w.layout⌝⦄ := by
  mvcgen [note]

theorem mark_spec (text : String) :
    ⦃fun w => ⌜v.Retouch w.layout⌝⦄ mark text ⦃⇓ _ w => ⌜v.Retouch w.layout⌝⦄ := by
  mvcgen [mark, note_spec]

theorem spend_spec :
    ⦃fun w => ⌜v.Retouch w.layout⌝⦄ spend
    ⦃post⟨fun _ w => ⌜v.Retouch w.layout⌝, fun _ w => ⌜v.Retouch w.layout⌝⟩⦄ := by
  mvcgen [spend]

theorem renderer_spec (r : Nat) :
    ⦃fun w => ⌜v.Retouch w.layout⌝⦄ renderer r
    ⦃⇓ rd w => ⌜v.Retouch w.layout ∧ rd = w.renderers.getD r Renderer.default⌝⦄ := by
  mvcgen [renderer]

theorem point?_spec (r id : Nat) :
    ⦃fun w => ⌜v.Retouch w.layout⌝⦄ point? r id
    ⦃⇓ found w => ⌜v.Retouch w.layout ∧ found = (w.layout.points r).find? (fun p => p.id == id)⌝⦄ := by
  mvcgen [point?, renderer]

theorem stateRecord_spec (i : Nat) :
    ⦃fun w => ⌜v.Retouch w.layout⌝⦄ stateRecord i ⦃⇓ _ w => ⌜v.Retouch w.layout⌝⦄ := by
  mvcgen [stateRecord]

theorem newState_spec (init : Option (List (String × Value))) :
    ⦃fun w => ⌜v.Retouch w.layout⌝⦄ newState init ⦃⇓ _ w => ⌜v.Retouch w.layout⌝⦄ := by
  mvcgen [newState]

theorem setState_spec (i : Nat) (key : String) (x : Value) :
    ⦃fun w => ⌜v.Retouch w.layout⌝⦄ setState i key x ⦃⇓ _ w => ⌜v.Retouch w.layout⌝⦄ := by
  mvcgen [setState]

theorem capset_spec (i : Nat) :
    ⦃fun w => ⌜v.Retouch w.layout⌝⦄ capset i ⦃⇓ _ w => ⌜v.Retouch w.layout⌝⦄ := by
  mvcgen [capset]

theorem inst_spec (i : Nat) :
    ⦃fun w => ⌜v.Retouch w.layout⌝⦄ inst i
    ⦃⇓ ins w => ⌜v.Retouch w.layout ∧ ins = w.instances.getD i default⌝⦄ := by
  mvcgen [inst]

theorem typedCap_spec (caps : Nat) (name : String) (t : CapType) :
    ⦃fun w => ⌜v.Retouch w.layout⌝⦄ typedCap caps name t
    ⦃post⟨fun _ w => ⌜v.Retouch w.layout⌝, fun _ w => ⌜v.Retouch w.layout⌝⟩⦄ := by
  mvcgen [typedCap, capset, capabilityFailed]

theorem callState_spec (f : Value) (init : Option (List (String × Value))) :
    ⦃fun w => ⌜v.Retouch w.layout⌝⦄ callState f init ⦃⇓ _ w => ⌜v.Retouch w.layout⌝⦄ := by
  mvcgen [callState, newState_spec]

theorem callLog_spec (f : Value) (args : List Value) :
    ⦃fun w => ⌜v.Retouch w.layout⌝⦄ callLog f args ⦃⇓ _ w => ⌜v.Retouch w.layout⌝⦄ := by
  mvcgen [callLog, note_spec]

theorem callTimer_spec (f : Value) :
    ⦃fun w => ⌜v.Retouch w.layout⌝⦄ callTimer f ⦃⇓ _ w => ⌜v.Retouch w.layout⌝⦄ := by
  mvcgen [callTimer, startTimer]

theorem callClear_spec (f : Value) (id : Nat) :
    ⦃fun w => ⌜v.Retouch w.layout⌝⦄ callClear f id ⦃⇓ _ w => ⌜v.Retouch w.layout⌝⦄ := by
  mvcgen [callClear, stopTimer]

theorem callOn_spec (f : Value) (topic : String) (sub : Subscriber) :
    ⦃fun w => ⌜v.Retouch w.layout⌝⦄ callOn f topic sub ⦃⇓ _ w => ⌜v.Retouch w.layout⌝⦄ := by
  mvcgen [callOn, mark_spec] with grind [Layout.Retouch.trans]

theorem dispose_spec (d : Disposer) :
    ⦃fun w => ⌜v.Retouch w.layout⌝⦄ dispose d ⦃⇓ _ w => ⌜v.Retouch w.layout⌝⦄ := by
  mvcgen [dispose]

theorem actionContext_spec (i : Nat) :
    ⦃fun w => ⌜v.Retouch w.layout⌝⦄ actionContext i ⦃⇓ _ w => ⌜v.Retouch w.layout⌝⦄ := by
  mvcgen [actionContext, inst, stateRecord]

theorem modifyInst_spec (i : Nat) (f : Instance → Instance) (keeps : ∀ ins, (f ins).script = ins.script) :
    ⦃fun w => ⌜v.Retouch w.layout⌝⦄ modifyInst i f ⦃⇓ _ w => ⌜v.Retouch w.layout⌝⦄ := by
  mvcgen [modifyInst] with exact (‹v.Retouch _›).trans (World.retouch_instances _ i f keeps)

/-- A new instance takes the next place, with the script it was made for. -/
theorem newInstance_spec (script : Nat) (name : String) (caps : Nat) (props : Props) :
    ⦃fun w => ⌜v.Retouch w.layout⌝⦄ newInstance script name caps props
    ⦃⇓ i w => ⌜v.Retouch w.layout ∧ i < w.instances.size⌝⦄ := by
  mvcgen [newInstance] with exact ⟨(‹v.Retouch _›).trans (World.retouch_push _ _), by simp⟩

theorem count_spec (r : Nat) (f : Metrics → Metrics) :
    ⦃fun w => ⌜v.Retouch w.layout⌝⦄ count r f ⦃⇓ _ w => ⌜v.Retouch w.layout⌝⦄ := by
  mvcgen [count, modifyRenderer] with
    exact (‹v.Retouch _›).trans (World.retouch_renderers _ r (fun rd => { rd with metrics := rd.metrics.map f })
      (fun _ => rfl) (fun _ => Nat.le_refl _))

/-- Changing a mount point in a way that keeps its shape, such as its rendering flag, is unseen. -/
theorem modifyPoint_spec (r id : Nat) (f : MountPoint → MountPoint) (keeps : ∀ p, (f p).shape = p.shape) :
    ⦃fun w => ⌜v.Retouch w.layout⌝⦄ modifyPoint r id f ⦃⇓ _ w => ⌜v.Retouch w.layout⌝⦄ := by
  mvcgen [modifyPoint, modifyRenderer]
  refine (‹v.Retouch _›).trans (World.retouch_renderers _ r
    (fun rd => { rd with points := rd.points.map (fun p => if p.id == id then f p else p) }) ?_
    (fun _ => Nat.le_refl _))
  intro rd
  simp only [List.map_map]
  congr 1
  funext p
  simp only [Function.comp_apply]
  split
  · exact keeps p
  · rfl

theorem modifyDoc_spec (f : Document Listener → Document Listener)
    (keeps : ∀ d : Document Listener, d.SameTree (f d)) :
    ⦃fun w => ⌜v.Retouch w.layout⌝⦄ modifyDoc f ⦃⇓ _ w => ⌜v.Retouch w.layout⌝⦄ := by
  mvcgen [modifyDoc] with exact (‹v.Retouch _›).trans (World.retouch_doc _ _ (keeps _))

/-- A reserved number is one above the last one handed out, and becomes the last one. -/
theorem reserve_spec (r k : Nat) :
    ⦃fun w => ⌜v.Retouch w.layout ∧ w.layout.next r = k⌝⦄ reserve r
    ⦃⇓ id w => ⌜v.Retouch w.layout ∧ id = k + 1 ∧ (r < w.renderers.size → w.layout.next r = id)⌝⦄ := by
  mvcgen [reserve, renderer, modifyRenderer]
  obtain ⟨retouch, rfl⟩ := ‹v.Retouch _ ∧ _›
  refine ⟨retouch.trans (World.retouch_renderers _ r (fun rd => { rd with next := rd.next + 1 })
    (fun _ => rfl) (fun _ => Nat.le_succ _)), rfl, fun present => ?_⟩
  exact World.next_reserve _ r (by simpa +zetaDelta using present)

end Primitives

theorem composeOne_spec (v : Layout) (t : TriggerTarget) (values : Dict Value) (p : Plugin) :
    ⦃fun w => ⌜v.Retouch w.layout⌝⦄ composeOne t values p ⦃⇓ _ w => ⌜v.Retouch w.layout⌝⦄ := by
  cases p <;> mvcgen [composeOne]

/-- Composing capabilities touches timer tables, triggers and capability sets only. -/
theorem compose_spec (v : Layout) (ps : List Plugin) (t : TriggerTarget) :
    ⦃fun w => ⌜v.Retouch w.layout⌝⦄ compose ps t ⦃⇓ _ w => ⌜v.Retouch w.layout⌝⦄ := by
  unfold compose
  mvcgen [composeOne_spec] invariants
  · ⇓ _ w => ⌜v.Retouch w.layout⌝
  with grind [Layout.Retouch.trans]

theorem applyProp_spec (v : Layout) (r id el : Nat) (first : Bool) (p : Attr) :
    ⦃fun w => ⌜v.Retouch w.layout⌝⦄ applyProp r id el first p
    ⦃post⟨fun _ w => ⌜v.Retouch w.layout⌝, fun _ w => ⌜v.Retouch w.layout⌝⟩⦄ := by
  mvcgen [applyProp, modifyDoc_spec, fail] with
    grind [Layout.Retouch.trans, Attr.sameTree_mark, Document.SameTree.addListener]

/-- Props change attributes, properties and listeners, which the invariant does not read. -/
theorem applyProps_spec (v : Layout) (r id el : Nat) (props : List Attr) (first : Bool) :
    ⦃fun w => ⌜v.Retouch w.layout⌝⦄ applyProps r id el props first
    ⦃post⟨fun _ w => ⌜v.Retouch w.layout⌝, fun _ w => ⌜v.Retouch w.layout⌝⟩⦄ := by
  mvcgen [applyProps, applyProp_spec] invariants
  · post⟨fun _ w => ⌜v.Retouch w.layout⌝, fun _ w => ⌜v.Retouch w.layout⌝⟩
  with grind [Layout.Retouch.trans]

/-- Exercising a capability other than the emit one touches states, timers, the bus and the trace
only. -/
theorem checkCap_spec (v : Layout) (n caps : Nat) (name : String) (inert : name ≠ "emit") :
    ⦃fun w => ⌜v.Retouch w.layout⌝⦄ checkCap n caps name
    ⦃post⟨fun _ w => ⌜v.Retouch w.layout⌝, fun _ w => ⌜v.Retouch w.layout⌝⟩⦄ := by
  rw [checkCap.eq_def]
  split
  · mvcgen
  · split
    case h_9 => exact absurd rfl inert
    all_goals mvcgen [typedCap_spec, mark_spec, note_spec, callState_spec, stateRecord_spec, callLog_spec,
      callTimer_spec, callClear_spec, callOn_spec, dispose_spec, capset_spec] with grind [Layout.Retouch.trans]

/-- An inert action of an instance may change its disposers, but nothing the invariant reads. -/
theorem action_spec (v : Layout) (n i : Nat) (act : Action) (inert : act.Inert) :
    ⦃fun w => ⌜v.Retouch w.layout⌝⦄ action n i act
    ⦃post⟨fun _ w => ⌜v.Retouch w.layout⌝, fun _ w => ⌜v.Retouch w.layout⌝⟩⦄ := by
  rw [action.eq_def]
  split
  · mvcgen
  · rename_i n
    cases act
    case emit => exact inert.elim
    case trigger => exact inert.elim
    all_goals mvcgen [inst_spec, actionContext_spec, stateRecord_spec, setState_spec, mark_spec, note_spec,
      typedCap_spec, callLog_spec, callOn_spec, modifyInst_spec, dispose_spec, capset_spec, checkCap_spec] with grind [Layout.Retouch.trans]

/-- Inert actions keep the world a retouch of where they started from. -/
theorem actions_spec (v : Layout) (n : Nat) (owner : Option Nat) (acts : List Action)
    (inert : ∀ a ∈ acts, a.Inert) :
    ⦃fun w => ⌜v.Retouch w.layout⌝⦄ actions n owner acts
    ⦃post⟨fun _ w => ⌜v.Retouch w.layout⌝, fun _ w => ⌜v.Retouch w.layout⌝⟩⦄ := by
  -- The fuel goes down with the list, so induction on it walks the actions one by one.
  induction n generalizing acts with
  | zero =>
    rw [actions]
    mvcgen
  | succ n ih =>
    cases acts with
    | nil =>
      rw [actions]
      mvcgen
    | cons act rest =>
      rw [actions]
      have first := fun i => action_spec v n i act (inert act List.mem_cons_self)
      have others := ih rest (fun a h => inert a (List.mem_cons_of_mem _ h))
      mvcgen [spend_spec, mark_spec, first, others] with grind [Layout.Retouch.trans]

/-- Setting a component up under a steady program changes nothing the invariant reads, and a scripted
component's render function names an instance that exists. -/
theorem instantiate_spec (v : Layout) (steady : v.program.Steady) (n : Nat) (c : Component) (name : String)
    (props : Props) (caps : Nat) :
    ⦃fun w => ⌜v.Retouch w.layout⌝⦄ instantiate n c name props caps
    ⦃post⟨fun fn w => ⌜v.Retouch w.layout ∧ ∀ i, fn = .script i → i < w.instances.size⌝,
      fun _ w => ⌜v.Retouch w.layout⌝⟩⦄ := by
  rw [instantiate.eq_def]
  split
  · mvcgen
  · rename_i n
    cases c
    case demo d =>
      cases d <;> mvcgen [typedCap_spec, callState_spec, callLog_spec, callOn_spec, callTimer_spec,
        callClear_spec] with grind [Layout.Retouch.trans]
    case script s =>
      -- The program stays the steady one, so the script's setup is inert wherever it runs.
      have inert : ∀ w : World, v.Retouch w.layout → ∀ a ∈ (w.program.scripts.getD s default).setup, a.Inert := by
        intro w h
        have same : w.program = v.program := h.frame.program
        exact (Program.Steady.getD (same ▸ steady) s).2
      mvcgen [spend_spec, mark_spec, newInstance_spec, typedCap_spec, callState_spec, modifyInst_spec,
        actions_spec, fail] with grind only [→ Layout.Retouch.trans, → World.instances_of_retouch]

/-- Calling a render function changes nothing the invariant reads, and what it renders goes where
the function yields. -/
theorem callRender_spec (v : Layout) (n : Nat) (fn : RenderFn) (props : Props) (children : List Value)
    (inst : ∀ i, fn = .script i → i < v.instances.size) :
    ⦃fun w => ⌜v.Retouch w.layout⌝⦄ callRender n fn props children
    ⦃post⟨fun out w => ⌜v.Retouch w.layout ∧ out.Fits v fn⌝, fun _ w => ⌜v.Retouch w.layout⌝⟩⦄ := by
  rw [callRender.eq_def]
  split
  · mvcgen
  · cases fn
    case script i =>
      have renders : ∀ w : World, v.Retouch w.layout → ∀ y, RenderFn.Yields v (.script i) y → ∀ k c,
          ((w.program.scripts.getD (w.instances.getD i default).script default).output k c).Renders y :=
        fun w h _ yields => World.renders_script h (inst i rfl) yields
      mvcgen [spend_spec, inst_spec, mark_spec, modifyInst_spec, stateRecord_spec] with
        grind only [→ Layout.Retouch.trans, Value.Fits]
    case host tag => mvcgen with exact ⟨‹_›, fun y yields => Value.renders_node _ yields⟩
    case stateful =>
      mvcgen with exact ⟨‹_›, fun y (yields : y = .container) => yields ▸ Value.renders_node _ (by decide)⟩
    all_goals mvcgen [stateRecord_spec]
    all_goals exact ⟨by grind only [→ Layout.Retouch.trans], fun y (yields : y = .element) => yields ▸ Value.renders_node _ (by decide)⟩

end Run

end ViewEngine
