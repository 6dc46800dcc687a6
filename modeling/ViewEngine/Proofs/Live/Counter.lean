import ViewEngine.Proofs.Live.Append
import ViewEngine.Proofs.Engine.Compose
import ViewEngine.Proofs.Markup.Render

/-!
The bundled counter, live. Mounting a counter sets it up over a new state record holding the start
its props decode to, registers its mount point and renders a button into the container: the button
gets the counter's class, one click listener and the texts of the label and the count. A click adds
one to the count, wrapping past the 64-bit limits, and renders the button again, appending the new
texts after the old ones or, when the renderer clears on update, in their place. `Counting` says
where a live counter is and what its button shows; mounting establishes it and a click keeps it.
-/

namespace ViewEngine

open Host Run

/-- The node that mounts the bundled counter with props. -/
def counterNode (props : Props) : Value := .node [.component (.demo .counter) .component, .props props]

/-- The props a counter's button is rendered with: its class, and its click handler over the
counter's state record and capability set. -/
def counterProps (st caps : Nat) : Props :=
  some [("class", .str "counter"), ("onclick", .routine (.counterClick st caps))]

/-- The texts one render of a counter puts into its button: the label, a blank, and the count. -/
def counterTexts (label : String) (c : Int) : List Child := [.text label, .text " ", .text (toString c)]

namespace Host.Document

variable {L : Type}

/-- Emptying an element leaves it with no children; other places keep their shape, the children
losing only their parent. -/
theorem shapeAt_removeChildren (d : Document L) (el x : Nat) :
    (d.removeChildren el).shapeAt x = if x = el then (d.shapeAt x).map (fun sh => (sh.1, [])) else d.shapeAt x := by
  unfold removeChildren
  split
  · rename_i absent
    by_cases same : x = el
    · subst same
      simp [shapeAt, absent]
    · simp [same]
  · have forget : ∀ (ids : List Nat) (start : Document L) (y : Nat),
        (ids.foldl (fun d c => d.modify c (fun k => { k with parent := none })) start).shapeAt y = start.shapeAt y := by
      intro ids
      induction ids with
      | nil => exact fun _ _ => rfl
      | cons c rest ih =>
        intro start y
        rw [List.foldl_cons, ih, shapeAt_modify_of_shape (f := fun k => { k with parent := none })
          (fun _ => ⟨rfl, rfl⟩)]
    dsimp only
    rw [shapeAt_modify_children (f := fun e => { e with children := [] }) (g := fun _ => []) (fun _ => ⟨rfl, rfl⟩),
      forget]

/-- Appending texts one after another adds them to the end of the element's children. -/
theorem shapeAt_appendTexts (d : Document L) (el : Nat) (texts : List String) (x : Nat) :
    (texts.foldl (fun d t => d.appendText el t) d).shapeAt x =
      if x = el then (d.shapeAt x).map (fun sh => (sh.1, sh.2 ++ texts.map .text)) else d.shapeAt x := by
  induction texts generalizing d with
  | nil => split <;> simp_all
  | cons t rest ih =>
    rw [List.foldl_cons, ih, shapeAt_appendText]
    by_cases same : x = el
    · simp [same, Option.map_map, Function.comp_def]
    · simp [same]

theorem Quiet.appendTexts (d : Document L) (el : Nat) (texts : List String) :
    d.Quiet (texts.foldl (fun d t => d.appendText el t) d) := by
  induction texts generalizing d with
  | nil => exact Quiet.refl d
  | cons t rest ih => exact (Quiet.appendText d el t).trans (ih _)

theorem Quiet.addClass (d : Document L) (el : Nat) (name : String) : d.Quiet (d.addClass el name) :=
  Quiet.of_modify d el (fun e => by split <;> rfl)

/-- An element whose first element child has a tag finds that child first. -/
theorem find?_first_child {d : Document L} {b x : Nat} {t tag : String} {rest cs : List Child}
    (parent : d.shapeAt b = some (t, .element x :: rest)) (child : d.shapeAt x = some (tag, cs)) :
    d.find? b tag = some x := by
  obtain ⟨e, got, same⟩ := Option.map_eq_some_iff.1 parent
  obtain ⟨e', got', same'⟩ := Option.map_eq_some_iff.1 child
  simp only [Prod.mk.injEq] at same same'
  simp [find?, findAt, childElements, got, same.2, elementIds, tagOf, got', same'.1]

/-- An element holding texts only reads as those texts joined. -/
theorem textContent_of_texts {d : Document L} {x : Nat} {tag : String} {texts : List String}
    (h : d.shapeAt x = some (tag, texts.map Child.text)) : d.textContent x = String.join texts := by
  obtain ⟨e, got, same⟩ := Option.map_eq_some_iff.1 h
  simp only [Prod.mk.injEq] at same
  simp [textContent, textAt, got, same.2, Function.comp_def]

end Host.Document

namespace Run

/-- A counter renders its button from the count its state record holds. -/
theorem callRender_counter_run (n : Nat) (label : String) (st caps : Nat) (props : Props) (children : List Value)
    (w : World) :
    (callRender (n + 1) (.counter label st caps) props children).run w =
      .ok (.node [.str "button", .props (counterProps st caps), .str label, .str " ",
        (w.states.getD st default).get "count"]) w := rfl

/-- The button's props classify as its class and its click handler, in key order. -/
theorem classify_counterProps (st caps : Nat) :
    classify (counterProps st caps) =
      [classifyOne ("class", .str "counter"), classifyOne ("onclick", .routine (.counterClick st caps))] := by
  simp only [classify, counterProps, Props.sorted, Option.getD_some]
  -- Two keys already in order: sorting keeps them.
  have ordered : ("class" : String) ≤ "onclick" := by decide
  rw [List.mergeSort_of_pairwise (by simp [ordered])]
  rfl

/-- Applying the button's props adds its class to the element and, on the first render only, its
click listener. -/
theorem applyProps_counter_run (r id el st caps : Nat) (first : Bool) (w : World) :
    (applyProps r id el (classify (counterProps st caps)) first).run w =
      .ok () { w with doc := if first then (w.doc.addClass el "counter").addListener el "click" (.mounted r id (.counterClick st caps))
        else w.doc.addClass el "counter" } := by
  rw [classify_counterProps]
  cases first <;> rfl

/-- Children that are no nodes are appended to the element as their texts, one after another. -/
theorem mountChildren_texts_run (r : Nat) (cs : List Value) (into owner : Nat)
    (texts : ∀ c ∈ cs, c.asNode? = none) {fuel : Nat} (enough : cs.length < fuel) (w : World) :
    (mountChildren fuel r cs into owner).run w =
      .ok () { w with doc := (cs.map Value.text).foldl (fun d t => d.appendText into t) w.doc } := by
  induction cs generalizing fuel w with
  | nil =>
    obtain ⟨fuel, rfl⟩ : ∃ k, fuel = k + 1 := ⟨fuel - 1, by simp at enough; omega⟩
    rw [mountChildren]
    rfl
  | cons c rest ih =>
    obtain ⟨fuel, rfl⟩ : ∃ k, fuel = k + 1 := ⟨fuel - 1, by simp at enough; omega⟩
    have text : c.asNode? = none := texts c (List.mem_cons_self ..)
    rw [mountChildren]
    simp only [text, Option.isSome_none, Bool.false_eq_true, if_false]
    rw [bind_run, modifyDoc_run]
    exact ih (fun c' hc' => texts c' (List.mem_cons_of_mem c hc')) (by simp at enough; omega) _

/-- A mount point with no element yet gets a new one, appended to its container. -/
theorem hostElement_attach_run (r id : Nat) (p : MountPoint) (tag : String) (fresh : p.element = none) (w : World) :
    (hostElement r id p tag).run w =
      .ok w.doc.elements.size ((modifyPoint r id (fun q => { q with element := some w.doc.elements.size })).leaves
        { w with doc := (w.doc.create tag).1.appendChild p.container w.doc.elements.size }) := by
  simp only [hostElement, fresh]
  rfl

/-- A renderer that does not clear on update renders again into the element as it is. -/
theorem hostElement_keep_run (r id : Nat) (p : MountPoint) (tag : String) {el : Nat} (placed : p.element = some el)
    {w : World} (keeps : (w.renderers.getD r Renderer.default).clearOnUpdate = false) :
    (hostElement r id p tag).run w = .ok el w := by
  simp only [hostElement, placed, bind_run, renderer, get_run, pure_run, keeps]
  rfl

/-- A renderer that clears on update empties the element and releases what was mounted into it; a
mount point with no kids releases nothing. -/
theorem hostElement_clear_run (r id : Nat) (p : MountPoint) (tag : String) {el : Nat} (placed : p.element = some el)
    {w : World} (clears : (w.renderers.getD r Renderer.default).clearOnUpdate = true) {q : MountPoint}
    (found : (w.points r).find? (·.id == id) = some q) (kidless : q.kids = []) :
    (hostElement r id p tag).run w =
      .ok el ((modifyPoint r id (fun q => { q with kids := [] })).leaves
        { w with doc := w.doc.removeChildren el,
                 renderers := w.renderers.modify r (fun rd => { rd with points := w.points r }) }) := by
  have found' : (w.renderers.getD r Renderer.default).points.find? (·.id == id) = some q := found
  simp only [hostElement, placed, bind_run, renderer, get_run, pure_run, clears, if_true, clearElement,
    modifyDoc_run, release, point?, found', kidless, dropPoints]
  rfl

/-- A log call records at most its arguments in the trace. -/
theorem callLog_run (f : Value) (args : List Value) (w : World) :
    ∃ trace, (callLog f args).run w = .ok () { w with trace } := by
  unfold callLog
  split
  · exact ⟨_, rfl⟩
  · exact ⟨w.trace, rfl⟩

theorem setState_run (i : Nat) (key : String) (v : Value) (w : World) :
    (setState i key v).run w = .ok () { w with states := w.states.modify i (fun s => s.set key v) } := rfl

/-- A click on a counter adds one to the count in its state record, wrapping past the 64-bit
limits, and logs the click. -/
theorem callHandler_counterClick_run (n st caps : Nat) (ev : Option Event) {w : World} {c : Int}
    (count : (w.states.getD st default).get "count" = .int .int c) {f : Value}
    (log : (w.capsets.getD caps default).typed "log" .log = .ok f) :
    ∃ trace, (callHandler (n + 1) (.counterClick st caps) ev).run w =
      .ok none { w with states := w.states.modify st (fun s => s.set "count" (.int .int (IntKind.int.wrap (c + 1)))),
                        trace } := by
  obtain ⟨trace, logged⟩ := callLog_run f [.str "counter clicked"]
    { w with states := w.states.modify st (fun s => s.set "count" (.int .int (IntKind.int.wrap (c + 1)))) }
  refine ⟨trace, ?_⟩
  simp only [callHandler, bind_run, stateRecord, get_run, pure_run, count, setState_run, typedCap_run, log,
    logged]

/-- The label a counter shows for the label its props decode to: the default one when empty. -/
def counterLabel (t : String) : String := if t.isEmpty then "Clicked" else t

/-- Setting up a counter whose props decode to a start count and a label creates the state record
holding the count and returns the counter's render function over it; when some prop failed to
decode, the failure is logged first. -/
theorem instantiate_counter_run (n : Nat) (name : String) {props : Props} {caps : Nat} {w : World}
    {k : IntKind} {s : Int} {t : String}
    (start : (w.program.decode counterShape props).1.field "start" = some (.int k s))
    (label : (w.program.decode counterShape props).1.field "label" = some (.text t))
    {f g : Value} (state : (w.capsets.getD caps default).typed "state" .state = .ok f)
    (log : (w.capsets.getD caps default).typed "log" .log = .ok g) :
    ∃ trace, (instantiate (n + 1) (.demo .counter) name props caps).run w =
      .ok (.counter (counterLabel t) w.states.size caps)
        { w with states := w.states.push (StateRecord.ofFields (some [("count", .int .int s)])), trace } := by
  rw [instantiate]
  dsimp only
  -- The log call, made only when a prop failed, touches the trace alone.
  rcases failed : (w.program.decode counterShape props).2 with _ | message
  · refine ⟨w.trace, ?_⟩
    simp only [bind_run, get_run, decodeProps_value, decodeProps_failure, failed, Option.map_none, start, label,
      typedCap_run, state, callState, newState, set_run, pure_run, counterLabel]
  · obtain ⟨trace, logged⟩ := callLog_run g [.str "counter: ", .error ("rigor: decode props: " ++ message)] w
    refine ⟨trace, ?_⟩
    simp only [bind_run, get_run, decodeProps_value, decodeProps_failure, failed, Option.map_some, start, label,
      typedCap_run, log, logged, state, callState, newState, set_run, pure_run, counterLabel]

/-- A step that finished leaves the world it finished in. -/
theorem leaves_of_ok {α : Type} {m : Run α} {w w' : World} {a : α} (h : m.run w = .ok a w') : m.leaves w = w' := by
  simp only [Run.leaves, h]

/-- A render phase of a counter renders its button from the count in its state record, with the
point flagged, counts the call, takes the element, applies the button's props and appends its
texts; the flag is cleared last. -/
theorem renderPhase_counter_run {n r id : Nat} {first : Bool} {p : MountPoint} {label : String} {st caps : Nat}
    {w w₂ : World} (found : (w.points r).find? (·.id == id) = some p) (counter : p.render = .counter label st caps)
    (placed : (do
        let el ← hostElement r id { p with rendering := true } "button"
        applyProps r id el (classify (counterProps st caps)) first
        mountChildren (n + 1) r [.str label, .str " ", (w.states.getD st default).get "count"] el id).run
      ((count r (fun m => { m with renders := m.renders.bump "dom" })).leaves
        ((modifyPoint r id (fun q => { q with rendering := true })).leaves w)) = .ok () w₂) :
    (renderPhase (n + 2) r id first).run w =
      .ok () ((modifyPoint r id (fun q => { q with rendering := false })).leaves w₂) := by
  let w₁ := (modifyPoint r id (fun q => { q with rendering := true })).leaves w
  have flagged : (w₁.scene.points r).find? (·.id == id) = some { p with rendering := true } := by
    rw [find?_modifyPoint r id (fun q => { q with rendering := true }) (fun _ => rfl)]
    exact congrArg (Option.map _) found
  -- The render call reads the count from the flagged world, whose records are those of the first.
  have rendered : (callRender (n + 1) p.render p.props p.children).run w₁ =
      .ok (.node [.str "button", .props (counterProps st caps), .str label, .str " ",
        (w.states.getD st default).get "count"]) w₁ := by
    rw [counter]
    exact callRender_counter_run n label st caps p.props p.children w₁
  have plain : Value.isFragment (.str "button") = false := by decide
  rw [leaves_of_ok (count_run r _ w₁)] at placed
  rw [renderPhase, bind_run, modifyPoint_run]
  dsimp only
  rw [andFinally_run _ (modifyPoint_run r id _), bind_run, point?_run, flagged]
  dsimp only
  rw [bind_run, rendered]
  dsimp only
  rw [bind_run, count_run]
  simp only [split, Value.asNode?, Value.asProps?, plain, Value.component?, Option.bind_some,
    Option.isSome_none, Bool.false_eq_true, if_false]
  rw [placed]

theorem update_run_ok {n r id : Nat} {w w' : World} (phase : (renderPhase n r id false).run w = .ok () w') :
    (update (n + 1) r id).run w = .ok () w' := by
  rw [update, recover_run, phase]

/-- A component's listener counts the event, runs the handler and, when the handler reports no
failure and the mount point is still live, renders the mount point again. -/
theorem listen_mounted_run {n r id : Nat} {h : Routine} {ev : Event} {w w₁ w₂ : World}
    (handled : (callHandler n h (some ev)).run
      ((count r (fun m => { m with events := m.events.bump ev.type })).leaves w) = .ok none w₁)
    (live : ((w₁.points r).find? (·.id == id)).isSome)
    (updated : (update n r id).run w₁ = .ok () w₂) :
    (listen (n + 1) (.mounted r id h) ev).run w = .ok () w₂ := by
  have live' : ((w₁.renderers.getD r Renderer.default).points.find? (·.id == id)).isSome := live
  rw [leaves_of_ok (count_run r _ w)] at handled
  rw [listen, recover_run, bind_run, count_run]
  dsimp only
  rw [bind_run, handled]
  dsimp only
  simp only [bind_run, point?, renderer, get_run, pure_run, live', if_true, updated]

/-- An event on an element with one listener runs that listener; when it finishes, no failure is
reported. -/
theorem dispatch_one_run {n : Nat} {ev : Event} {l : Listener} {w w' : World}
    (only : w.doc.listenersOf ev.target ev.type = [l]) (ran : (listen n l ev).run w = .ok () w') :
    (dispatch (n + 1) ev).run w = .ok none w' := by
  rw [dispatch]
  simp only [bind_run, get_run, only, List.forIn_cons, List.forIn_nil, attempt_run, ran]
  rfl

end Run

/-- Where a mounted counter lives: its renderer and mount point, the element of its button, its
state record and capability set, and its label. -/
structure CounterSite where
  renderer : Nat
  point : Nat
  button : Nat
  record : Nat
  caps : Nat
  label : String

/-- A live counter: its mount point renders the counter over its record and capability set into its
button, which holds the click listener and the children `cs`; the record counts `c`; the set has a
log function; and the renderer clears on update as `clear` says. -/
structure Counting (w : World) (k : CounterSite) (clear : Bool) (c : Int) (cs : List Child) : Prop where
  point : ∃ p, (w.scene.points k.renderer).find? (·.id == k.point) = some p ∧
    p.render = .counter k.label k.record k.caps ∧ p.element = some k.button ∧ p.rendering = false ∧ p.kids = []
  clears : (w.renderers.getD k.renderer Renderer.default).clearOnUpdate = clear
  listener : w.doc.listenersOf k.button "click" = [.mounted k.renderer k.point (.counterClick k.record k.caps)]
  shape : w.doc.shapeAt k.button = some ("button", cs)
  record : k.record < w.states.size
  count : (w.states.getD k.record default).get "count" = .int .int c
  log : ∃ f, (w.capsets.getD k.caps default).typed "log" .log = .ok f

/-- The mount points of a world are read from its renderers alone. -/
@[simp] theorem World.scene_points_doc (w : World) (d : Document Listener) (r : Nat) :
    ({ w with doc := d } : World).scene.points r = w.scene.points r := rfl

/-- The options of a world are read from its renderers alone. -/
@[simp] theorem World.options_doc (w : World) (d : Document Listener) :
    ({ w with doc := d } : World).options = w.options := rfl

namespace Run

@[simp] theorem doc_leaves_modifyPoint (r id : Nat) (f : MountPoint → MountPoint) (w : World) :
    ((modifyPoint r id f).leaves w).doc = w.doc := rfl

@[simp] theorem doc_leaves_count (r : Nat) (f : Metrics → Metrics) (w : World) :
    ((count r f).leaves w).doc = w.doc := rfl

@[simp] theorem states_leaves_modifyPoint (r id : Nat) (f : MountPoint → MountPoint) (w : World) :
    ((modifyPoint r id f).leaves w).states = w.states := rfl

@[simp] theorem states_leaves_count (r : Nat) (f : Metrics → Metrics) (w : World) :
    ((count r f).leaves w).states = w.states := rfl

@[simp] theorem capsets_leaves_modifyPoint (r id : Nat) (f : MountPoint → MountPoint) (w : World) :
    ((modifyPoint r id f).leaves w).capsets = w.capsets := rfl

@[simp] theorem capsets_leaves_count (r : Nat) (f : Metrics → Metrics) (w : World) :
    ((count r f).leaves w).capsets = w.capsets := rfl

@[simp] theorem renderers_size_leaves_count (r : Nat) (f : Metrics → Metrics) (w : World) :
    ((count r f).leaves w).renderers.size = w.renderers.size := Array.size_modify ..

theorem options_leaves_modifyPoint (r id : Nat) (f : MountPoint → MountPoint) (w : World) :
    ((modifyPoint r id f).leaves w).options = w.options :=
  World.options_modify w r _ (fun _ => rfl)

theorem options_leaves_count (r : Nat) (f : Metrics → Metrics) (w : World) :
    ((count r f).leaves w).options = w.options :=
  World.options_modify w r _ (fun _ => rfl)

theorem points_leaves_count (r r' : Nat) (f : Metrics → Metrics) (w : World) :
    ((count r f).leaves w).scene.points r' = w.scene.points r' :=
  count_points (count_run r f w)

/-- Setting a renderer's mount points to those it has changes no renderer's mount points. -/
theorem points_restore (w : World) (d : Document Listener) (r r' : Nat) :
    ({ w with doc := d, renderers := w.renderers.modify r (fun rd => { rd with points := w.points r }) }).scene.points r' =
      w.scene.points r' := by
  show (⟨d, w.renderers.modify r _⟩ : Scene).points r' = w.scene.points r'
  rw [Scene.points_modify]
  split
  · rename_i same
    obtain ⟨rfl, -⟩ := same
    rfl
  · rfl

/-- Taking a kept element to render into again: the renderer clears it when it clears on update,
releasing nothing from a mount point with no kids; the mount point and the options stay. -/
theorem hostElement_again {r id el : Nat} {q : MountPoint} {w : World} (tag : String)
    (found : (w.scene.points r).find? (·.id == id) = some q) (placed : q.element = some el) (kidless : q.kids = []) :
    ∃ w', (hostElement r id q tag).run w = .ok el w' ∧
      w'.doc = (if (w.renderers.getD r Renderer.default).clearOnUpdate then w.doc.removeChildren el else w.doc) ∧
      (w'.scene.points r).find? (·.id == id) = some q ∧ w'.options = w.options ∧
      w'.states = w.states ∧ w'.capsets = w.capsets := by
  cases clears : (w.renderers.getD r Renderer.default).clearOnUpdate with
  | false => exact ⟨w, hostElement_keep_run r id q tag placed clears, rfl, found, rfl, rfl, rfl⟩
  | true =>
    refine ⟨_, hostElement_clear_run r id q tag placed clears found kidless, rfl, ?_, ?_, rfl, rfl⟩
    · -- Releasing no kids keeps the mount points; emptying the kids of the point keeps it.
      rw [find?_modifyPoint r id (fun q => { q with kids := [] }) (fun _ => rfl), points_restore, found]
      rw [← kidless]
      rfl
    · rw [options_leaves_modifyPoint]
      exact World.options_modify _ r _ (fun _ => rfl)

/-- Taking the element of a mount point with none: a new one at the end of the store, appended to
the container; the mount point keeps it, and the options stay. -/
theorem hostElement_first {r id : Nat} {q : MountPoint} {w : World} (tag : String)
    (found : (w.scene.points r).find? (·.id == id) = some q) (fresh : q.element = none) :
    ∃ w', (hostElement r id q tag).run w = .ok w.doc.elements.size w' ∧
      w'.doc = (w.doc.create tag).1.appendChild q.container w.doc.elements.size ∧
      (w'.scene.points r).find? (·.id == id) = some { q with element := some w.doc.elements.size } ∧
      w'.options = w.options ∧ w'.states = w.states ∧ w'.capsets = w.capsets := by
  refine ⟨_, hostElement_attach_run r id q tag fresh w, rfl, ?_, ?_, rfl, rfl⟩
  · rw [find?_modifyPoint r id (fun q => { q with element := some w.doc.elements.size }) (fun _ => rfl),
      World.scene_points_doc, found]
    rfl
  · rw [options_leaves_modifyPoint, World.options_doc]

end Run

namespace Counting

variable {w : World} {k : CounterSite} {clear : Bool} {c : Int} {cs : List Child}

/-- Rendering a live counter again appends the texts of its count to its button, after what the
button held or in place of it when the renderer clears on update; every other place keeps its
shape. -/
theorem rerender (live : Counting w k clear c cs) (n : Nat) :
    ∃ w', (renderPhase (n + 5) k.renderer k.point false).run w = .ok () w' ∧
      Counting w' k clear c ((if clear then [] else cs) ++ counterTexts k.label c) ∧
      ∀ x, x ≠ k.button → w'.doc.shapeAt x = w.doc.shapeAt x := by
  obtain ⟨p, found, render, placed, idle, kidless⟩ := live.point
  let w₁ := (modifyPoint k.renderer k.point (fun q => { q with rendering := true })).leaves w
  let w₂ := (Run.count k.renderer (fun m => { m with renders := m.renders.bump "dom" })).leaves w₁
  -- The element is taken from the world where the point is flagged and the render call counted.
  have found₂ : (w₂.scene.points k.renderer).find? (·.id == k.point) = some { p with rendering := true } := by
    rw [points_leaves_count, find?_modifyPoint _ _ (fun q => { q with rendering := true }) (fun _ => rfl), found]
    rfl
  have options₂ : w₂.options = w.options := by
    rw [options_leaves_count, options_leaves_modifyPoint]
  obtain ⟨w₃, taken, doc₃, found₃, options₃, states₃, capsets₃⟩ :=
    hostElement_again "button" found₂ placed kidless
  let shown := (w.states.getD k.record default).get "count"
  let w₄ : World := { w₃ with doc := w₃.doc.addClass k.button "counter" }
  let w₅ : World :=
    { w₄ with doc := ([Value.str k.label, .str " ", shown].map Value.text).foldl (·.appendText k.button ·) w₄.doc }
  have texts : ∀ v ∈ [Value.str k.label, .str " ", shown], v.asNode? = none := by
    simp [shown, live.count, Value.asNode?]
  have placedAll : (do
      let el ← hostElement k.renderer k.point { p with rendering := true } "button"
      applyProps k.renderer k.point el (classify (counterProps k.record k.caps)) false
      mountChildren (n + 3 + 1) k.renderer [.str k.label, .str " ", shown] el k.point).run w₂ = .ok () w₅ := by
    rw [bind_run, taken]
    dsimp only
    rw [bind_run, applyProps_counter_run]
    dsimp only
    exact mountChildren_texts_run _ _ _ _ texts (by simp) w₄
  have phase := renderPhase_counter_run found render placedAll
  -- The button's document: emptied when the renderer clears, its class added, the texts appended.
  have cleared : w₃.doc = if clear then w.doc.removeChildren k.button else w.doc := by
    rw [doc₃, clearOnUpdate_of_options options₂, live.clears]
    rfl
  have quiet : w.doc.Quiet w₅.doc := by
    have emptied : w.doc.Quiet w₃.doc := by
      rw [cleared]
      split
      · exact Document.Quiet.removeChildren _ _
      · exact Document.Quiet.refl _
    exact (emptied.trans (Document.Quiet.addClass _ _ _)).trans (Document.Quiet.appendTexts _ _ _)
  have shapes : ∀ x, w₅.doc.shapeAt x =
      if x = k.button then ((if clear then w.doc.removeChildren k.button else w.doc).shapeAt x).map
        (fun sh => (sh.1, sh.2 ++ counterTexts k.label c)) else w.doc.shapeAt x := by
    intro x
    simp only [w₅, w₄, Document.shapeAt_appendTexts, (Document.SameShapes.addClass _ _ _).shape, cleared]
    split
    · simp [shown, live.count, counterTexts, Value.text, Value.show]
    · rename_i other
      split
      · rw [Document.shapeAt_removeChildren, if_neg other]
      · rfl
  -- Records and capability sets are as the phase found them.
  have states : ((modifyPoint k.renderer k.point (fun q => { q with rendering := false })).leaves w₅).states =
      w.states := states₃
  have capsets : ((modifyPoint k.renderer k.point (fun q => { q with rendering := false })).leaves w₅).capsets =
      w.capsets := capsets₃
  refine ⟨_, phase, ⟨⟨p, ?_, render, placed, idle, kidless⟩, ?_, ?_, ?_, states ▸ live.record, states ▸ live.count,
    capsets ▸ live.log⟩, ?_⟩
  · rw [find?_modifyPoint _ _ (fun q => { q with rendering := false }) (fun _ => rfl)]
    show Option.map _ ((w₃.scene.points k.renderer).find? (·.id == k.point)) = some p
    rw [found₃, ← idle]
    rfl
  · rw [clearOnUpdate_of_options ((options_leaves_modifyPoint _ _ _ w₅).trans (options₃.trans options₂)),
      live.clears]
  · show w₅.doc.listenersOf k.button "click" = _
    rw [quiet.same, live.listener]
  · show w₅.doc.shapeAt k.button = _
    rw [shapes, if_pos rfl]
    split
    · rw [Document.shapeAt_removeChildren, if_pos rfl, live.shape]
      rfl
    · rw [live.shape]
      rfl
  · intro x other
    show w₅.doc.shapeAt x = _
    rw [shapes, if_neg other]

/-- A live counter's mount point is live. -/
theorem isLive (live : Counting w k clear c cs) :
    ((w.scene.points k.renderer).find? (·.id == k.point)).isSome := by
  obtain ⟨p, found, -⟩ := live.point
  rw [found]
  rfl

/-- Setting the count of a live counter's record, with its handler's log in the trace. -/
theorem recount (live : Counting w k clear c cs) (c' : Int) (trace : Array Note) :
    Counting { w with states := w.states.modify k.record (fun s => s.set "count" (.int .int c')), trace } k clear c' cs where
  point := live.point
  clears := live.clears
  listener := live.listener
  shape := live.shape
  record := by simpa using live.record
  count := by
    simp [Array.getD_eq_getD_getElem?, Array.getElem_modify, live.record, StateRecord.get, StateRecord.set,
      StateRecord.lookup]
  log := live.log

/-- Counting an event changes nothing a live counter depends on. -/
theorem counted (live : Counting w k clear c cs) (r : Nat) (f : Metrics → Metrics) :
    Counting ((Run.count r f).leaves w) k clear c cs where
  point := by rw [points_leaves_count]; exact live.point
  clears := by rw [clearOnUpdate_of_options (options_leaves_count r f w)]; exact live.clears
  listener := live.listener
  shape := live.shape
  record := live.record
  count := live.count
  log := live.log

/-- A click on a live counter's button adds one to the count, wrapping past the 64-bit limits, and
renders the button again, reporting no failure; every other place keeps its shape. -/
theorem click (live : Counting w k clear c cs) :
    ∃ w', (Run.click k.button).run w = .ok none w' ∧
      Counting w' k clear (IntKind.int.wrap (c + 1))
        ((if clear then [] else cs) ++ counterTexts k.label (IntKind.int.wrap (c + 1))) ∧
      ∀ x, x ≠ k.button → w'.doc.shapeAt x = w.doc.shapeAt x := by
  let ev : Event := ⟨"click", k.button, .null⟩
  have live₀ := live.counted k.renderer (fun m => { m with events := m.events.bump ev.type })
  obtain ⟨f, log⟩ := live₀.log
  obtain ⟨trace, handled⟩ := callHandler_counterClick_run 99997 k.record k.caps (some ev) live₀.count log
  have live₁ := live₀.recount (IntKind.int.wrap (c + 1)) trace
  obtain ⟨w', phase, live', others⟩ := live₁.rerender 99992
  exact ⟨w', dispatch_one_run live.listener (listen_mounted_run handled live₁.isLive (update_run_ok phase)), live',
    others⟩

/-- The first render phase of a counter's mount point creates its button at the end of the store,
appends it to the container and gives it the counter's class, click listener and texts: the counter
is live, showing its count. Only the container and the button change shape. -/
theorem firstRender {n : Nat} {p : MountPoint}
    (found : (w.scene.points k.renderer).find? (·.id == k.point) = some p)
    (render : p.render = .counter k.label k.record k.caps) (fresh : p.element = none) (idle : p.rendering = false)
    (kidless : p.kids = []) (button : k.button = w.doc.elements.size) (inside : p.container < w.doc.elements.size)
    (record : k.record < w.states.size) (count : (w.states.getD k.record default).get "count" = .int .int c)
    (log : ∃ f, (w.capsets.getD k.caps default).typed "log" .log = .ok f) :
    ∃ w', (renderPhase (n + 5) k.renderer k.point true).run w = .ok () w' ∧
      Counting w' k (w.renderers.getD k.renderer Renderer.default).clearOnUpdate c (counterTexts k.label c) ∧
      w'.doc.shapeAt p.container = (w.doc.shapeAt p.container).map (fun sh => (sh.1, sh.2 ++ [.element k.button])) ∧
      ∀ x, x ≠ p.container → x ≠ k.button → w'.doc.shapeAt x = w.doc.shapeAt x := by
  let w₁ := (modifyPoint k.renderer k.point (fun q => { q with rendering := true })).leaves w
  let w₂ := (Run.count k.renderer (fun m => { m with renders := m.renders.bump "dom" })).leaves w₁
  let el := w.doc.elements.size
  let created := (w.doc.create "button").1.appendChild p.container el
  have found₂ : (w₂.scene.points k.renderer).find? (·.id == k.point) = some { p with rendering := true } := by
    rw [points_leaves_count, find?_modifyPoint _ _ (fun q => { q with rendering := true }) (fun _ => rfl), found]
    rfl
  obtain ⟨w₃, taken, doc₃, found₃, options₃, states₃, capsets₃⟩ := hostElement_first "button" found₂ fresh
  have doc₂ : w₂.doc = w.doc := by simp only [w₂, w₁, doc_leaves_count, doc_leaves_modifyPoint]
  rw [doc₂] at taken doc₃ found₃
  let listener : Listener := .mounted k.renderer k.point (.counterClick k.record k.caps)
  let w₄ : World := { w₃ with doc := (w₃.doc.addClass el "counter").addListener el "click" listener }
  let shown := (w.states.getD k.record default).get "count"
  let w₅ : World :=
    { w₄ with doc := ([Value.str k.label, .str " ", shown].map Value.text).foldl (·.appendText el ·) w₄.doc }
  have texts : ∀ v ∈ [Value.str k.label, .str " ", shown], v.asNode? = none := by
    simp [shown, count, Value.asNode?]
  have placedAll : (do
      let el ← hostElement k.renderer k.point { p with rendering := true } "button"
      applyProps k.renderer k.point el (classify (counterProps k.record k.caps)) true
      mountChildren (n + 3 + 1) k.renderer [.str k.label, .str " ", shown] el k.point).run w₂ = .ok () w₅ := by
    rw [bind_run, taken]
    dsimp only
    rw [bind_run, applyProps_counter_run]
    dsimp only
    exact mountChildren_texts_run _ _ _ _ texts (by simp) w₄
  have phase := renderPhase_counter_run found render placedAll
  have apart : p.container ≠ el := Nat.ne_of_lt inside
  -- The button is created fresh and appended to the container, then gets its class, its listener and
  -- its texts.
  have shapes : ∀ x, w₅.doc.shapeAt x =
      if x = el then some ("button", counterTexts k.label c)
      else if x = p.container then (w.doc.shapeAt x).map (fun sh => (sh.1, sh.2 ++ [.element el]))
      else w.doc.shapeAt x := by
    intro x
    simp only [w₅, w₄, doc₃, Document.shapeAt_appendTexts, (Document.SameShapes.addListener _ _ _ _).shape,
      (Document.SameShapes.addClass _ _ _).shape]
    simp only [Document.shapeAt_appendChild, Document.shapeAt_create]
    by_cases mine : x = el
    · subst mine
      simp [Ne.symm apart, el, shown, count, counterTexts, Value.text, Value.show]
    · by_cases theirs : x = p.container
      · subst theirs
        simp [el, Nat.ne_of_lt inside]
      · simp [el, mine, theirs]
  have listens : w₅.doc.listenersOf el "click" = [listener] := by
    simp only [w₅, w₄, doc₃]
    rw [(Document.Quiet.appendTexts _ _ _).same, Document.listenersOf_addListener,
      (Document.Quiet.addClass _ _ _).same, (Document.Quiet.appendChild _ _ _).same, (Document.Quiet.create _ _).same,
      Document.listenersOf_of_size_le (Nat.le_refl _)]
    simp [el, Document.addClass]
  -- The point keeps the button it was given, and is no longer rendering.
  have placed : (((modifyPoint k.renderer k.point (fun q => { q with rendering := false })).leaves w₅).scene.points
      k.renderer).find? (·.id == k.point) = some { p with element := some el } := by
    rw [find?_modifyPoint _ _ (fun q => { q with rendering := false }) (fun _ => rfl)]
    simp only [w₅, w₄, World.scene_points_doc]
    rw [found₃, ← idle]
    rfl
  have options : ((modifyPoint k.renderer k.point (fun q => { q with rendering := false })).leaves w₅).options =
      w.options := by
    rw [options_leaves_modifyPoint]
    simp only [w₅, w₄, World.options_doc]
    rw [options₃, options_leaves_count, options_leaves_modifyPoint]
  -- Records and capability sets are as the phase found them.
  have states : ((modifyPoint k.renderer k.point (fun q => { q with rendering := false })).leaves w₅).states =
      w.states := by
    simp only [states_leaves_modifyPoint, w₅, w₄, states₃, w₂, w₁, states_leaves_count]
  have capsets : ((modifyPoint k.renderer k.point (fun q => { q with rendering := false })).leaves w₅).capsets =
      w.capsets := by
    simp only [capsets_leaves_modifyPoint, w₅, w₄, capsets₃, w₂, w₁, capsets_leaves_count]
  refine ⟨_, phase, ⟨⟨{ p with element := some el }, placed, render, by rw [button], idle, kidless⟩,
    clearOnUpdate_of_options options _, button ▸ listens, ?_, states ▸ record, states ▸ count, capsets ▸ log⟩, ?_, ?_⟩
  · rw [doc_leaves_modifyPoint, shapes, button, if_pos rfl]
  · rw [doc_leaves_modifyPoint, shapes, if_neg apart, if_pos rfl, button]
  · intro x other mine
    rw [doc_leaves_modifyPoint, shapes, if_neg (fun h => mine (h.trans button.symm)), if_neg other]

end Counting

@[simp] theorem World.doc_afterPlugins (w : World) (t : TriggerTarget) (ps : List Plugin) :
    (w.afterPlugins t ps).doc = w.doc := rfl

@[simp] theorem World.renderers_afterPlugins (w : World) (t : TriggerTarget) (ps : List Plugin) :
    (w.afterPlugins t ps).renderers = w.renderers := rfl

@[simp] theorem World.scene_afterPlugins (w : World) (t : TriggerTarget) (ps : List Plugin) :
    (w.afterPlugins t ps).scene = w.scene := rfl

@[simp] theorem World.scene_points_renderers (w : World) (rs : Array Renderer) (r : Nat) :
    ({ w with renderers := rs } : World).scene.points r = (rs.getD r Renderer.default).points := rfl

@[simp] theorem World.options_afterPlugins (w : World) (t : TriggerTarget) (ps : List Plugin) :
    (w.afterPlugins t ps).options = w.options := rfl

@[simp] theorem World.states_afterPlugins (w : World) (t : TriggerTarget) (ps : List Plugin) :
    (w.afterPlugins t ps).states = w.states := rfl

@[simp] theorem World.capsets_afterPlugins (w : World) (t : TriggerTarget) (ps : List Plugin) :
    (w.afterPlugins t ps).capsets = w.capsets := rfl

/-- A set composed from the safe plugins makes state records and logs. -/
theorem Plugin.safe_state_log (target : TriggerTarget) (table : Nat) :
    (∃ f, (Plugin.composed target table Flavor.safe.plugins).typed "state" .state = .ok f) ∧
      ∃ g, (Plugin.composed target table Flavor.safe.plugins).typed "log" .log = .ok g := by
  constructor <;>
    simp [CapSet.typed, Plugin.composed_lookup, Plugin.provides, Flavor.safe, CapType.accepts, Plugin.tables,
      List.lookup]

namespace Run

/-- Registering a mount point with no owner makes it live and counts it. -/
theorem register_run (r : Nat) (p : MountPoint) (w : World) :
    (register r p none).run w = .ok () ((count r (fun m => { m with mountPoints := m.mountPoints + 1 })).leaves
      { w with renderers := w.renderers.modify r (fun rd => { rd with points := rd.points ++ [p] }) }) := rfl

end Run

theorem Counting.mounted {n r container : Nat} {props : Props} {w : World} {k : IntKind} {s : Int} {t : String}
    (start : (w.program.decode counterShape props).1.field "start" = some (.int k s))
    (label : (w.program.decode counterShape props).1.field "label" = some (.text t))
    (present : r < w.renderers.size) (safe : (w.renderers.getD r Renderer.default).plugins = Flavor.safe.plugins)
    (vacant : ∀ q ∈ w.scene.points r, q.id ≠ w.scene.next r + 1) (inside : container < w.doc.elements.size) :
    ∃ w', (mount (n + 8) r (counterNode props) container none).run w = .ok () w' ∧
      Counting w' ⟨r, w.scene.next r + 1, w.doc.elements.size, w.states.size, w.capsets.size, counterLabel t⟩
        (w.renderers.getD r Renderer.default).clearOnUpdate s (counterTexts (counterLabel t) s) ∧
      w'.doc.shapeAt container = (w.doc.shapeAt container).map (fun sh => (sh.1, sh.2 ++ [.element w.doc.elements.size])) ∧
      ∀ x, x ≠ container → x ≠ w.doc.elements.size → w'.doc.shapeAt x = w.doc.shapeAt x := by
  let id := w.scene.next r + 1
  let target : TriggerTarget := .mountPoint r id
  let w₁ : World := { w with renderers := w.renderers.modify r (fun rd => { rd with next := rd.next + 1 }) }
  let w₂ : World := { w₁.afterPlugins target Flavor.safe.plugins with
    capsets := w.capsets.push (Plugin.composed target w.timers.size Flavor.safe.plugins) }
  have caps : w₂.capsets.getD w.capsets.size default = Plugin.composed target w.timers.size Flavor.safe.plugins := by
    simp [w₂, Array.getD_eq_getD_getElem?]
  obtain ⟨⟨f, state⟩, ⟨g, log⟩⟩ := Plugin.safe_state_log target w.timers.size
  rw [← caps] at state log
  obtain ⟨trace, setUp⟩ := instantiate_counter_run (w := w₂) (n + 6) ((Component.demo .counter).name .component) start label
    state log
  let w₃ : World := { w₂ with states := w₂.states.push (StateRecord.ofFields (some [("count", .int .int s)])), trace }
  let w₄ := (Run.count r (fun m => { m with setups := m.setups + 1 })).leaves w₃
  let p : MountPoint := ⟨id, (Component.demo .counter).name .component, container, none,
    .counter (counterLabel t) w.states.size w.capsets.size, props, [], false, []⟩
  let w₅ := (Run.count r (fun m => { m with mountPoints := m.mountPoints + 1 })).leaves
      { w₄ with renderers := w₄.renderers.modify r (fun rd => { rd with points := rd.points ++ [p] }) }
  have doc₅ : w₅.doc = w.doc := by
    simp only [w₅, w₄, w₃, w₂, w₁, doc_leaves_count, World.doc_afterPlugins]
  have states₅ : w₅.states = w.states.push (StateRecord.ofFields (some [("count", .int .int s)])) := by
    simp only [w₅, w₄, w₃, w₂, w₁, states_leaves_count, World.states_afterPlugins]
  have capsets₅ : w₅.capsets = w₂.capsets := by
    simp only [w₅, w₄, w₃, capsets_leaves_count]
  have points₄ : w₄.scene.points r = w.scene.points r := by
    simp only [w₄, w₃, w₂, w₁, points_leaves_count, World.scene_mk, World.scene_afterPlugins,
      World.scene_points_renderers, Array.getD_modify, present, and_self]
    rfl
  have size₄ : r < w₄.renderers.size := by
    simpa [w₄, w₃, w₂, w₁] using present
  have points₅ : w₅.scene.points r = w.scene.points r ++ [p] := by
    simp only [w₅, points_leaves_count, World.scene_points_renderers, Array.getD_modify, true_and, size₄,
      if_true]
    exact congrArg (· ++ [p]) points₄
  have found : (w₅.scene.points r).find? (·.id == id) = some p := by
    rw [points₅, List.find?_append, List.find?_eq_none.2 (fun q hq => by simpa using vacant q hq)]
    simp [p]
  have options₅ : w₅.options = w.options := by
    simp only [w₅, options_leaves_count]
    rw [World.options_modify w₄ r (fun rd => { rd with points := rd.points ++ [p] }) (fun _ => rfl)]
    simp only [w₄, options_leaves_count, w₃, World.options_mk, w₂, World.options_afterPlugins, w₁]
    exact World.options_modify _ _ _ (fun _ => rfl)
  have record : w.states.size < w₅.states.size := by
    simp [states₅]
  have count : (w₅.states.getD w.states.size default).get "count" = .int .int s := by
    simp [states₅, Array.getD_eq_getD_getElem?, StateRecord.get, StateRecord.lookup, StateRecord.ofFields,
      Dict.ofList]
  have log₅ : ∃ f, (w₅.capsets.getD w.capsets.size default).typed "log" .log = .ok f := ⟨g, capsets₅ ▸ log⟩
  obtain ⟨w', phase, counting, grown, others⟩ :=
    Counting.firstRender (n := n + 2) (k := ⟨r, id, w.doc.elements.size, w.states.size, w.capsets.size, counterLabel t⟩)
      found rfl rfl rfl rfl (by rw [doc₅]) (by rw [doc₅]; exact inside) record count log₅
  rw [clearOnUpdate_of_options options₅] at counting
  rw [doc₅] at grown others
  refine ⟨w', ?_, counting, grown, others⟩
  have plugins₁ : (w₁.renderers.getD r Renderer.default).plugins = Flavor.safe.plugins := by
    simp only [w₁, Array.getD_modify, present, true_and, if_true]
    exact safe
  have run₁ : (reserve r).run w = .ok id w₁ := reserve_run r w
  have run₂ : (compose Flavor.safe.plugins target).run w₁ = .ok w.capsets.size w₂ := compose_run _ _ w₁
  have run₃ : (instantiate (n + 7) (.demo .counter) ((Component.demo .counter).name .component) props
      w.capsets.size).run w₂ = .ok (.counter (counterLabel t) w.states.size w.capsets.size) w₃ := setUp
  have run₄ : (Run.count r (fun m => { m with setups := m.setups + 1 })).run w₃ = .ok () w₄ := count_run _ _ w₃
  have run₅ : (register r p none).run w₄ = .ok () w₅ := register_run r p w₄
  rw [mount]
  simp only [counterNode, Value.asNode?, split, Value.asProps?, Value.component?]
  rw [bind_run, run₁]
  dsimp only
  rw [bind_run, renderer_run]
  dsimp only
  rw [plugins₁, bind_run, run₂]
  dsimp only
  rw [bind_run, run₃]
  dsimp only
  rw [bind_run, run₄]
  dsimp only
  rw [bind_run, pure_run]
  dsimp only
  rw [bind_run, run₅]
  exact phase

end ViewEngine
