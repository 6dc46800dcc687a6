import Mathlib
import ViewEngine.Proofs.Live.Clean

/-! The listeners of an element come from the render output that created it. A first render phase
of a mount point that renders a host node creates the element, then applies the output's props in
key order: each prop whose key is `on` followed by word characters registers one listener, for the
lower-cased word, when its value is a handler; a truth value registers nothing; any other value
stops the phase with an invalid-node failure before the props after it. A later render phase
applies props with the first flag off, so it checks no handler and registers no listener, and over
whole runs every element that was there keeps its listeners (`listeners_come_from_first_renders`). -/

namespace ViewEngine

open Host

/-! ## What props register -/

/-- The listener a classified prop registers on a first pass for an event: its handler, for the
mount point, when the prop names that event and its value is a handler. -/
def Attr.listenerFor (r id : Nat) (ev : String) (a : Attr) : Option Listener :=
  if a.event = some ev then a.value.handler?.map (.mounted r id) else none

/-- Whether a first pass refuses a classified prop: it names an event, and its value is neither a
handler nor a truth value. -/
def Attr.refused (a : Attr) : Bool := a.event.isSome && a.value.handler?.isNone && a.flag.isNone

/-- What a first pass adds to the element for a classified prop: its handler, under the event it
names. -/
def Attr.register (r id el : Nat) (a : Attr) (d : Document Listener) : Document Listener :=
  match a.event, a.value.handler? with
  | some event, some h => d.addListener el event (.mounted r id h)
  | _, _ => d

/-- The listeners the props of a render output register for an event on its first pass: one for
each prop, in key order, whose key names the event and whose value is a handler. -/
def Props.listenersFor (props : Props) (r id : Nat) (ev : String) : List Listener :=
  props.sorted.filterMap fun f => if eventOf? f.1 = some ev then f.2.handler?.map (.mounted r id) else none

/-- The first prop, in key order, that a first pass refuses: its key names an event and its value
is neither a handler nor a truth value. -/
def Props.refused? (props : Props) : Option (String × Value) :=
  props.sorted.find? fun f => (eventOf? f.1).isSome && f.2.handler?.isNone && !(f.2 matches .bool _)

theorem classify_listenerFor (props : Props) (r id : Nat) (ev : String) :
    (classify props).filterMap (Attr.listenerFor r id ev) = props.listenersFor r id ev := by
  simp only [classify, List.filterMap_map, Props.listenersFor]
  rfl

theorem classify_refused (props : Props) : (classify props).find? Attr.refused = props.refused?.map classifyOne := by
  simp only [classify, List.find?_map, Props.refused?]
  congr 2
  funext f
  -- A truth value is the one value classified with a flag.
  obtain ⟨key, v⟩ := f
  cases v <;> rfl

/-- Registering a prop's listener puts it last among the element's listeners of its event. -/
theorem Attr.listenersOf_register (r id el : Nat) (a : Attr) {d : Document Listener} (inside : el < d.elements.size)
    (ev : String) : (a.register r id el d).listenersOf el ev = d.listenersOf el ev ++ (a.listenerFor r id ev).toList := by
  obtain ⟨name, value, isClass, data, flag, event⟩ := a
  simp only [Attr.register, Attr.listenerFor]
  cases event with
  | none => simp
  | some event =>
    cases value.handler? with
    | none => simp
    | some h =>
      rw [Document.listenersOf_addListener]
      by_cases same : event = ev <;> simp [same, inside]

theorem Attr.size_register (r id el : Nat) (a : Attr) (d : Document Listener) :
    (a.register r id el d).elements.size = d.elements.size := by
  unfold Attr.register
  split
  · exact Document.size_modify _ _ _
  · rfl

namespace Run

/-- A first pass applies a prop's marks, then refuses it or registers its listener. -/
theorem applyProp_first_run (r id el : Nat) (a : Attr) (w : World) :
    (applyProp r id el true a).run w =
      if a.refused then .error (.fail (.invalidNode (.badHandler a.name a.value.typeName))) { w with doc := a.mark el w.doc }
      else .ok () { w with doc := a.register r id el (a.mark el w.doc) } := by
  obtain ⟨name, value, isClass, data, flag, event⟩ := a
  cases event with
  | none => rfl
  | some event =>
    cases handler : value.handler? with
    | some h => simp [applyProp, Attr.refused, Attr.register, handler]; rfl
    | none => cases flag <;> simp [applyProp, Attr.refused, Attr.register, handler] <;> rfl

/-- A later pass applies a prop's marks only. -/
theorem applyProp_later_run (r id el : Nat) (a : Attr) (w : World) :
    (applyProp r id el false a).run w = .ok () { w with doc := a.mark el w.doc } := by
  obtain ⟨name, value, isClass, data, flag, event⟩ := a
  cases event <;> rfl

/-- A first pass over props stops at the first one it refuses, with an invalid-node failure naming it
and its value's type. -/
theorem applyProps_first_refuses {r id el : Nat} {attrs : List Attr} {a : Attr}
    (refused : attrs.find? Attr.refused = some a) (w : World) :
    ∃ w', (applyProps r id el attrs true).run w = .error (.fail (.invalidNode (.badHandler a.name a.value.typeName))) w' := by
  induction attrs generalizing w with
  | nil => cases refused
  | cons b rest ih =>
    simp only [applyProps, List.forIn_cons, bind_assoc, pure_bind] at ih ⊢
    rw [bind_run, applyProp_first_run]
    by_cases stop : b.refused = true
    · -- The first prop refused is this one.
      rw [List.find?_cons_of_pos stop, Option.some.injEq] at refused
      subst refused
      simp only [stop, if_true]
      exact ⟨_, rfl⟩
    · rw [List.find?_cons_of_neg stop] at refused
      simp only [stop, Bool.false_eq_true, if_false]
      exact ih refused _

/-- A first pass over props it refuses none of finishes, changing the document only, and puts on the
element, after the listeners it had, those the props register, in order. -/
theorem applyProps_first_registers {r id el : Nat} {attrs : List Attr} (accepted : attrs.find? Attr.refused = none)
    {w : World} (inside : el < w.doc.elements.size) :
    ∃ w', (applyProps r id el attrs true).run w = .ok () w' ∧ w'.renderers = w.renderers ∧ el < w'.doc.elements.size ∧
      ∀ ev, w'.doc.listenersOf el ev = w.doc.listenersOf el ev ++ attrs.filterMap (Attr.listenerFor r id ev) := by
  induction attrs generalizing w with
  | nil => exact ⟨w, rfl, rfl, inside, fun ev => by simp⟩
  | cons b rest ih =>
    have kept : ¬ b.refused = true := fun stop => by simp [List.find?_cons_of_pos stop] at accepted
    rw [List.find?_cons_of_neg kept] at accepted
    simp only [applyProps, List.forIn_cons, bind_assoc, pure_bind] at ih ⊢
    rw [bind_run, applyProp_first_run]
    simp only [kept, Bool.false_eq_true, if_false]
    -- The marks keep the element and its listeners; the prop's own listener goes last.
    have marked := Attr.quiet_mark b el w.doc
    have inside₁ : el < (b.register r id el (b.mark el w.doc)).elements.size := by
      rw [Attr.size_register]
      exact Nat.lt_of_lt_of_le inside marked.size_le
    obtain ⟨w', run, renderers, inside', listeners⟩ := ih accepted (w := { w with doc := b.register r id el (b.mark el w.doc) })
      inside₁
    refine ⟨w', run, renderers, inside', fun ev => ?_⟩
    rw [listeners ev, Attr.listenersOf_register r id el b (Nat.lt_of_lt_of_le inside marked.size_le), marked.same,
      List.filterMap_cons]
    cases b.listenerFor r id ev <;> simp

/-- A later pass over props applies their marks, in order, and does nothing else: it refuses no
value and registers no listener. -/
theorem applyProps_later_run (r id el : Nat) (attrs : List Attr) (w : World) :
    (applyProps r id el attrs false).run w = .ok () { w with doc := attrs.foldl (fun d a => a.mark el d) w.doc } := by
  induction attrs generalizing w with
  | nil => rfl
  | cons a rest ih =>
    simp only [applyProps, List.forIn_cons, bind_assoc, pure_bind] at ih ⊢
    rw [bind_run, applyProp_later_run]
    exact ih _

/-! ## The render phase that creates an element -/

/-- The first render phase of a mount point with no element, whose render call outputs a host node
other than a fragment. The phase creates the element, at the next place of the document, and
applies the output's props to it on the first pass. It stops at the first prop that pass refuses,
with an invalid-node failure naming the prop and its value's type; when it refuses none, however
the rest of the phase ends, the element holds for every event exactly the listeners the output's
props register, in key order. -/
theorem firstRender_registers {m r id : Nat} {p : MountPoint} {w w₁ : World} {c : Value} {parts : Parts}
    {s : String} (numbered : w.scene.Numbered) (found : (w.scene.points r).find? (·.id == id) = some p)
    (fresh : p.element = none)
    (rendered : (callRender m p.render p.props p.children).run
      ((modifyPoint r id (fun q => { q with rendering := true })).leaves w) = .ok c w₁)
    (host : c.asNode?.bind split = some parts) (tag : parts.tag = .str s) (element : s ≠ fragmentTag) :
    (∀ k v, parts.props.refused? = some (k, v) →
      ∃ w', (renderPhase (m + 1) r id true).run w = .error (.fail (.invalidNode (.badHandler k v.typeName))) w') ∧
    (parts.props.refused? = none → ∀ ev,
      ((renderPhase (m + 1) r id true).leaves w).doc.listenersOf w₁.doc.elements.size ev =
        parts.props.listenersFor r id ev) := by
  let el := w₁.doc.elements.size
  let q : MountPoint := { p with rendering := true }
  let w₂ := (count r (fun m => { m with renders := m.renders.bump "dom" })).leaves w₁
  let w₃ := (modifyPoint r id (fun q => { q with element := some el })).leaves
    { w₂ with doc := (w₂.doc.create s).1.appendChild q.container el }
  -- Up to its props, the phase renders, counts the call and creates the element.
  have body : (do
      let c ← callRender m p.render p.props p.children
      count r (fun m => { m with renders := m.renders.bump "dom" })
      placeOutput m r id q true c).run ((modifyPoint r id (fun q => { q with rendering := true })).leaves w) =
      (do applyProps r id el (classify parts.props) true; mountChildren m r parts.children el id).run w₃ := by
    rw [bind_run, rendered]
    dsimp only
    rw [bind_run, count_run]
    dsimp only
    rw [placeOutput_str_eq host tag element, bind_run, hostElement_attach_run r id q s fresh]
    rfl
  -- Each of those steps keeps every live mount point numbered.
  have later₀ := ok_of_noThrow (modifyPoint_later w.scene r id (fun q => { q with rendering := true }) (fun _ => rfl))
    (.refl numbered) (modifyPoint_run r id _ w)
  have later₁ := ok_of_triple (callRender_later w.scene m p.render p.props p.children) later₀ rendered
  have later₂ := ok_of_noThrow (count_later w.scene r (fun m => { m with renders := m.renders.bump "dom" })) later₁
    (count_run r _ w₁)
  have later₃ := (ok_of_noThrow (hostElement_later w.scene r id q s) later₂ (hostElement_attach_run r id q s fresh w₂)).1
  -- The new element lies inside the document and has no listeners.
  have inside₃ : el < w₃.doc.elements.size := by simp [w₃, w₂, el]
  have empty₃ : ∀ ev, w₃.doc.listenersOf el ev = [] := by
    intro ev
    have made := (Document.Quiet.create w₂.doc s).trans (Document.Quiet.appendChild _ q.container el)
    rw [show w₃.doc = ((w₂.doc.create s).1.appendChild q.container el) from rfl, made.same]
    exact Document.listenersOf_of_size_le (Nat.le_refl w₂.doc.elements.size) ev
  constructor
  · intro k v refused
    have attrs : (classify parts.props).find? Attr.refused = some (classifyOne (k, v)) := by
      rw [classify_refused, refused]
      rfl
    obtain ⟨w₄, stop⟩ := @applyProps_first_refuses r id el _ _ attrs w₃
    refine ⟨(modifyPoint r id (fun q => { q with rendering := false })).leaves w₄, ?_⟩
    rw [renderPhase_run_of_found found, andFinally_run _ (modifyPoint_run r id _), body, bind_run, stop]
    rfl
  · intro accepted ev
    have attrs : (classify parts.props).find? Attr.refused = none := by
      rw [classify_refused, accepted]
      rfl
    obtain ⟨w₄, applied, renderers, inside₄, listeners⟩ := @applyProps_first_registers r id el _ attrs _ inside₃
    -- The children mounted into the element, however that ends, leave its listeners as they are.
    have kept : ((mountChildren m r parts.children el id).leaves w₄).doc.listenersOf el ev = w₄.doc.listenersOf el ev :=
      (leaves_of_triple ((listenersKept m).mountChildren w₄.scene r parts.children el id)
        (.refl (Scene.numbered_of_renderers renderers later₃.numbered))).kept el inside₄ ev
    have leaves : (renderPhase (m + 1) r id true).leaves w =
        (modifyPoint r id (fun q => { q with rendering := false })).leaves
          ((mountChildren m r parts.children el id).leaves w₄) := by
      unfold Run.leaves
      rw [renderPhase_run_of_found found, andFinally_run _ (modifyPoint_run r id _), body, bind_run, applied]
      dsimp only
      cases (mountChildren m r parts.children el id).run w₄ <;> rfl
    rw [leaves, doc_leaves_modifyPoint]
    change ((mountChildren m r parts.children el id).leaves w₄).doc.listenersOf el ev = _
    rw [kept, listeners ev, empty₃ ev, List.nil_append, classify_listenerFor]

/-- Listeners come from the render output that creates the element. Take the first render phase of
a mount point with no element, whose render call outputs a host node other than a fragment, from a
world whose live mount points all have numbers handed out. The phase creates the element, at the
next place of the document, and on that output's props, in key order: a prop whose key is `on`
followed by word characters gets one listener, for those characters lower-cased, when its value is
a handler; a truth value gets none; any other value stops the phase with an invalid-node failure
naming the prop and its value's type. A later render output's props are applied with no handler
checked and no listener registered, and over any calls every element that was there keeps its
listeners, every new element having only listeners of mount points numbered since. -/
theorem listeners_come_from_first_renders {m r id : Nat} {p : MountPoint} {w w₁ : World} {c : Value}
    {parts : Parts} {s : String} (numbered : w.scene.Numbered)
    (found : (w.scene.points r).find? (·.id == id) = some p) (fresh : p.element = none)
    (rendered : (callRender m p.render p.props p.children).run
      ((modifyPoint r id (fun q => { q with rendering := true })).leaves w) = .ok c w₁)
    (host : c.asNode?.bind split = some parts) (tag : parts.tag = .str s) (element : s ≠ fragmentTag) :
    (∀ k v, parts.props.refused? = some (k, v) →
      ∃ w', (renderPhase (m + 1) r id true).run w = .error (.fail (.invalidNode (.badHandler k v.typeName))) w') ∧
    (parts.props.refused? = none → ∀ ev,
      ((renderPhase (m + 1) r id true).leaves w).doc.listenersOf w₁.doc.elements.size ev =
        parts.props.listenersFor r id ev) ∧
    (∀ el attrs (v : World),
      (applyProps r id el attrs false).run v = .ok () { v with doc := attrs.foldl (fun d a => a.mark el d) v.doc }) ∧
    ∀ calls, (∀ x < w.doc.elements.size, ∀ ev, (Call.runAll r calls w).doc.listenersOf x ev = w.doc.listenersOf x ev) ∧
      ∀ x ev, w.doc.elements.size ≤ x → ∀ l ∈ (Call.runAll r calls w).doc.listenersOf x ev, l.After w.scene := by
  obtain ⟨refuses, registers⟩ := firstRender_registers numbered found fresh rendered host tag element
  refine ⟨refuses, registers, applyProps_later_run r id, fun calls => ?_⟩
  -- Later calls keep the listeners of the elements there and put new ones only for newer mount points.
  have later := runAll_later r calls numbered
  exact ⟨later.kept, later.newer⟩

/-- A button registered with its click handler, in the body of a fresh document: its first render
phase creates the button and registers one listener, for clicks. -/
theorem button_registers_click_listener :
    let p : MountPoint := ⟨1, "button", 0, none, .host "button", some [("onclick", .routine .idle)], [], false, []⟩
    let w : World := { World.fresh Program.empty #[{ Renderer.default with next := 1, points := [p] }] with
      doc := (Host.Document.empty.create "body").1 }
    w.scene.Numbered ∧ ((renderPhase 2 0 1 true).leaves w).doc.listenersOf 1 "click" = [.mounted 0 1 .idle] := by
  intro p w
  have numbered : w.scene.Numbered := Scene.numbered_one _ _ (by decide)
  -- The host render function rebuilds the button, which takes apart into its tag and its props.
  have host : (Value.node (hostItems "button" p.props [])).asNode?.bind split =
      some ⟨.str "button", p.props, []⟩ := rfl
  have found : (w.scene.points 0).find? (·.id == 1) = some p := rfl
  obtain ⟨-, registers, -⟩ := listeners_come_from_first_renders (m := 1) numbered found rfl
    (callRender_host 0 "button" p.props [] _) host rfl (by decide)
  -- The one prop names clicks, and its value is a handler.
  have click : eventOf? "onclick" = some "click" := by decide
  have accepted : p.props.refused? = none := by simp [p, Props.refused?, Props.sorted, Value.handler?]
  have listeners : p.props.listenersFor 0 1 "click" = [.mounted 0 1 .idle] := by
    simp [p, Props.listenersFor, Props.sorted, Value.handler?, click]
  have registered := registers accepted "click"
  rw [listeners] at registered
  exact ⟨numbered, registered⟩

end Run

end ViewEngine
