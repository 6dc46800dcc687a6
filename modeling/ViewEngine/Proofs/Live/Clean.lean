import Mathlib
import ViewEngine.Proofs.Live.Counter
import ViewEngine.Proofs.Engine.Confined
import ViewEngine.Proofs.Host.Written
import ViewEngine.Proofs.Data.Dict

/-! Content the two backends render alike, and the steps of a mount beside those of the string
backend. Props are plain when no key is `class` or `data` or starts with `on`, no value is a truth
value and no key comes twice: the string backend writes such props as their keys and texts in key
order, and a first render phase stores the same pairs as the element's attributes. Clean content is
built of host nodes and fragments with plain props, which their rebuild on each render keeps, with
non-empty node children, and of components without capabilities whose first output is clean again.
The steps a mount and the string backend's walk take over each kind of clean content are stated
here one by one, as equations of the engine's functions. -/

namespace ViewEngine

open Host Markup

/-! ## Plain props -/

/-- Props both backends write the same way: no key is `class` or `data` or starts with `on`, no
value is a truth value, and no key comes twice. -/
def Props.Plain (p : Props) : Prop :=
  (∀ f ∈ p.getD [], f.1 ≠ "class" ∧ f.1 ≠ "data" ∧ f.1.startsWith "on" = false ∧ ∀ b, f.2 ≠ .bool b) ∧
    ((p.getD []).map Prod.fst).Nodup

/-- A key that does not start with `on` names no event. -/
theorem eventOf?_of_startsWith {key : String} (other : key.startsWith "on" = false) : eventOf? key = none := by
  unfold eventOf?
  split
  · rename_i rest spelled
    rw [String.startsWith_string_eq_false_iff] at other
    exact absurd ⟨rest, spelled.symm⟩ other
  · rfl

/-- The attribute a plain prop classifies as: its key and value, matching no rule. -/
def Attr.plain (f : String × Value) : Attr := ⟨f.1, f.2, false, none, none, none⟩

theorem classifyOne_plain {f : String × Value}
    (plain : f.1 ≠ "class" ∧ f.1 ≠ "data" ∧ f.1.startsWith "on" = false ∧ ∀ b, f.2 ≠ .bool b) :
    classifyOne f = Attr.plain f := by
  obtain ⟨key, v⟩ := f
  obtain ⟨notClass, notData, notOn, notBool⟩ := plain
  simp only at notClass notData notOn notBool
  simp only [classifyOne, Attr.plain, beq_false_of_ne notClass, beq_false_of_ne notData, Bool.false_eq_true,
    if_false, eventOf?_of_startsWith notOn]

/-- Plain props classify, in key order, as plain attributes. -/
theorem classify_of_plain {p : Props} (plain : p.Plain) : classify p = p.sorted.map Attr.plain := by
  unfold classify
  refine List.map_congr_left fun f mem => classifyOne_plain (plain.1 f ?_)
  simpa [Props.sorted] using mem

/-- The string backend writes plain props as their keys and texts, in key order. -/
theorem attrPairs_of_plain {p : Props} (plain : p.Plain) :
    attrPairs p = p.sorted.map fun f => (f.1, f.2.text) := by
  rw [attrPairs, classify_of_plain plain, List.flatMap_map, List.map_eq_flatMap]
  refine List.flatMap_congr fun f mem => ?_
  have notOn : f.1.startsWith "on" = false := (plain.1 f (by simpa [Props.sorted] using mem)).2.2.1
  simp [Attr.pairs, Attr.plain, notOn]

/-- The pairs of plain props, in key order, have strictly ascending keys. -/
theorem sorted_pairs_of_plain {p : Props} (plain : p.Plain) : Dict.Sorted (p.sorted.map fun f => (f.1, f.2.text)) := by
  have ordered : (p.sorted.map Prod.fst).Pairwise (· ≤ ·) := by
    have := @List.pairwise_mergeSort _ (fun a b : String × Value => decide (a.1 ≤ b.1))
      (fun a b c hab hbc => by simpa using le_trans (by simpa using hab) (by simpa using hbc))
      (fun a b => by simpa using le_total a.1 b.1) (p.getD [])
    simpa [List.pairwise_map, Props.sorted] using this
  have distinct : (p.sorted.map Prod.fst).Nodup :=
    (((List.mergeSort_perm _ _).map Prod.fst).nodup_iff).2 plain.2
  unfold Dict.Sorted Dict.keys
  rw [List.map_map]
  exact (ordered.and distinct).imp fun both => lt_of_le_of_ne both.1 both.2

/-- No pair the string backend writes for plain props sets the class. -/
theorem attrPairs_classless {p : Props} (plain : p.Plain) : ∀ a ∈ attrPairs p, a.1 ≠ "class" := by
  rw [attrPairs_of_plain plain]
  intro a mem
  obtain ⟨f, sorted, rfl⟩ := List.mem_map.1 mem
  exact (plain.1 f (by simpa [Props.sorted] using sorted)).1

/-- An element made last in the container and given attributes with ascending keys, none the class,
then filled by a mount into it: the container gains one element with those attributes, holding what
the mount appended. -/
theorem Host.Document.Appends.created {L : Type} {d d₂ : Document L} {into : Nat} {tag : String} {attrs : Dict String}
    {gs : List Node} (inside : into < d.elements.size) (plain : ∀ a ∈ attrs, a.1 ≠ "class") (sorted : Dict.Sorted attrs)
    (inner : Appends (attrs.foldl (fun e a => e.setAttribute d.elements.size a.1 a.2)
      ((d.create tag).1.appendChild into d.elements.size)) d₂ d.elements.size gs) :
    Appends d d₂ into [.element tag attrs gs] := by
  have other : into ≠ d.elements.size := Nat.ne_of_lt inside
  refine .element inside ?_ ?_ ?_ ?_ inner
  · simp [size_setAttributes]
  · rw [face_setAttributes _ _ plain, if_neg other, face_appendChild, if_pos rfl, face_create, if_neg other]
  · -- The new element has its tag and, stored in ascending order, exactly the attributes given.
    rw [face_setAttributes _ _ plain, if_pos rfl, face_appendChild, if_neg other.symm, face_create, if_pos rfl]
    simp only [Option.map_some]
    rw [show Dict.insertAll ([] : Dict String) attrs = attrs from
      (Dict.insertAll_of_sorted (by simpa using sorted)).trans (List.nil_append attrs)]
  · intro e he ne
    rw [face_setAttributes _ _ plain, if_neg (Nat.ne_of_lt he), face_appendChild, if_neg ne, face_create,
      if_neg (Nat.ne_of_lt he)]

/-! ## Clean content -/

/-- The parts of a host node or fragment that both backends render alike: plain props, which the
node's rebuild on each render keeps; it would not keep absent props followed by a mapping child,
which it takes for props. -/
structure Parts.Plain (parts : Parts) : Prop where
  props : parts.props.Plain
  rebuilt : parts.props = none → parts.children.head?.bind Value.asProps? = none

/-- A node with plain parts is rebuilt into a node taken apart the same way. -/
theorem split_hostItems_of_plain {s : String} {parts : Parts} (plain : parts.Plain) :
    split (hostItems s parts.props parts.children) = some ⟨.str s, parts.props, parts.children⟩ := by
  rcases hp : parts.props with _ | p
  · have rebuilt := plain.rebuilt hp
    rcases hc : parts.children with _ | ⟨c, cs⟩
    · rfl
    · rw [hc] at rebuilt
      simp only [List.head?_cons, Option.bind_some] at rebuilt
      simp only [hostItems, List.nil_append, split, rebuilt]
  · rfl

/-- What a script's instance `i` renders on its first call, with no state record. -/
def Script.firstOutput (s : Script) (props : Props) (children : List Value) (i : Nat) : Value :=
  s.output 0 ⟨none, props, children, 0, some i, s.name⟩

/-- Content both backends render alike, with a program: a host node or fragment with plain parts
whose node children are clean; the bundled greeting; or a quiet script whose first output, for
whatever instance it sets up, is clean. -/
inductive Clean (prog : Program) : Value → Prop where
  | host {v : Value} {items : List Value} {parts : Parts} {s : String} :
      v.asNode? = some items → split items = some parts → parts.tag = .str s → parts.Plain →
      (∀ c ∈ parts.children, c.asNode?.isSome → Clean prog c) → Clean prog v
  | greeting {v : Value} {items : List Value} {parts : Parts} {form : ComponentForm} :
      v.asNode? = some items → split items = some parts → parts.tag = .component (.demo .godspeedYou) form →
      Clean prog v
  | script {v : Value} {items : List Value} {parts : Parts} {s : Nat} {form : ComponentForm} :
      v.asNode? = some items → split items = some parts → parts.tag = .component (.script s) form →
      (prog.scripts.getD s default).Quiet →
      (∀ i, Clean prog ((prog.scripts.getD s default).firstOutput parts.props parts.children i)) → Clean prog v

/-- Clean content is a node taken apart either as a host node or fragment with plain parts and clean
node children, or as a component node. -/
theorem Clean.placed {prog : Program} {v : Value} (clean : Clean prog v) :
    ∃ parts, v.asNode?.bind split = some parts ∧
      ((∃ s, parts.tag = .str s ∧ parts.Plain ∧ ∀ c ∈ parts.children, c.asNode?.isSome → Clean prog c) ∨
        ∃ c form, parts.tag.component? = some (c, form)) := by
  cases clean with
  | host hv hs ht plain children => exact ⟨_, by rw [hv, Option.bind_some, hs], .inl ⟨_, ht, plain, children⟩⟩
  | greeting hv hs ht => exact ⟨_, by rw [hv, Option.bind_some, hs], .inr ⟨_, _, by rw [ht, Value.component?]⟩⟩
  | script hv hs ht => exact ⟨_, by rw [hv, Option.bind_some, hs], .inr ⟨_, _, by rw [ht, Value.component?]⟩⟩

/-! ## Steps of a mount and of the walk -/

namespace Run

open Std.Do

set_option mvcgen.warning false

@[simp] theorem modify_run (f : World → World) (w : World) : (modify f : Run PUnit).run w = .ok () (f w) := rfl

/-- Plain props set their attributes on the element, in order, and do nothing else. -/
theorem applyProps_plain_run (r id el : Nat) (fields : List (String × Value)) (first : Bool) (w : World) :
    (applyProps r id el (fields.map Attr.plain) first).run w =
      .ok () { w with doc := (fields.map fun f => (f.1, f.2.text)).foldl (fun d a => d.setAttribute el a.1 a.2) w.doc } := by
  induction fields generalizing w with
  | nil => rfl
  | cons f rest ih =>
    have step : (applyProp r id el first (Attr.plain f)).run w =
        .ok () { w with doc := w.doc.setAttribute el f.1 f.2.text } := rfl
    simp only [applyProps, List.map_cons, List.forIn_cons, bind_assoc, pure_bind] at ih ⊢
    rw [bind_run, step]
    exact ih _

/-- Mounting a node with a string tag, a fragment's included: a number reserved, the mount point
registered with the host render function, and its first render phase. -/
theorem mount_str_eq {m r : Nat} {v : Value} {into : Nat} {owner : Option Nat} {items : List Value} {parts : Parts}
    {s : String} (hv : v.asNode? = some items) (hs : split items = some parts) (ht : parts.tag = .str s) :
    mount (m + 1) r v into owner =
      (do
        let id ← reserve r
        register r ⟨id, s, into, none, .host s, parts.props, parts.children, false, []⟩ owner
        renderPhase m r id true) := by
  rw [mount]
  simp only [hv, hs, ht, Value.component?, pure_bind]

/-- Mounting a component node: a number reserved, capabilities composed for the mount point, the
component set up and counted, the mount point registered with its render function, and its first
render phase. -/
theorem mount_component_eq {m r : Nat} {v : Value} {into : Nat} {owner : Option Nat} {items : List Value}
    {parts : Parts} {c : Component} {form : ComponentForm} (hv : v.asNode? = some items) (hs : split items = some parts)
    (ht : parts.tag.component? = some (c, form)) :
    mount (m + 1) r v into owner =
      (do
        let id ← reserve r
        let caps ← compose (← renderer r).plugins (.mountPoint r id)
        let fn ← instantiate m c (c.name form) parts.props caps
        count r (fun m => { m with setups := m.setups + 1 })
        register r ⟨id, c.name form, into, none, fn, parts.props, parts.children, false, []⟩ owner
        renderPhase m r id true) := by
  rw [mount]
  simp only [hv, hs, ht, pure_bind]

/-- A render phase of a live mount point: flagged, it renders, counts the call and places the
output; the flag is cleared however that ends. -/
theorem renderPhase_run_of_found {m r id : Nat} {first : Bool} {p : MountPoint} {w : World}
    (found : (w.scene.points r).find? (·.id == id) = some p) :
    (renderPhase (m + 1) r id first).run w =
      (andFinally (do
          let c ← callRender m p.render p.props p.children
          count r (fun m => { m with renders := m.renders.bump "dom" })
          placeOutput m r id { p with rendering := true } first c)
        (modifyPoint r id (fun q => { q with rendering := false }))).run
        ((modifyPoint r id (fun q => { q with rendering := true })).leaves w) := by
  have flagged : (((modifyPoint r id (fun q => { q with rendering := true })).leaves w).scene.points r).find?
      (·.id == id) = some { p with rendering := true } := by
    rw [find?_modifyPoint r id (fun q => { q with rendering := true }) (fun _ => rfl)]
    exact congrArg (Option.map _) found
  rw [renderPhase, bind_run, modifyPoint_run]
  dsimp only
  rw [andFinally_run _ (modifyPoint_run r id _), andFinally_run _ (modifyPoint_run r id _), bind_run, point?_run,
    flagged]
  rfl

/-- Registering a mount point never stops. -/
theorem register_run_leaves (r : Nat) (p : MountPoint) (owner : Option Nat) (w : World) :
    (register r p owner).run w = .ok () ((register r p owner).leaves w) := by
  cases owner <;> rfl

@[simp] theorem doc_leaves_register (r : Nat) (p : MountPoint) (owner : Option Nat) (w : World) :
    ((register r p owner).leaves w).doc = w.doc := by
  cases owner <;> rfl

/-! A quiet script's setup makes one instance and touches no other; its first render call reads that
instance, untouched since. -/

/-- A quiet step of an instance leaves the instances as they are. -/
theorem action_instances (n i : Nat) {act : Action} (quiet : act.Quiet) (is : Array Instance) :
    ⦃fun w => ⌜w.instances = is⌝⦄ action n i act ⦃post⟨fun _ w => ⌜w.instances = is⌝, fun _ _ => ⌜True⌝⟩⦄ := by
  rw [action.eq_def]
  split
  · mvcgen
  cases act <;> simp only [Action.Quiet] at quiet
  all_goals mvcgen [inst, actionContext, stateRecord, setState, mark, note]

theorem actions_instances (n : Nat) (owner : Option Nat) {acts : List Action} (quiet : ∀ a ∈ acts, a.Quiet)
    (is : Array Instance) :
    ⦃fun w => ⌜w.instances = is⌝⦄ actions n owner acts ⦃post⟨fun _ w => ⌜w.instances = is⌝, fun _ _ => ⌜True⌝⟩⦄ := by
  induction n generalizing acts with
  | zero =>
    rw [actions.eq_def]
    mvcgen
  | succ n ih =>
    rw [actions.eq_def]
    cases acts with
    | nil => mvcgen
    | cons act rest =>
      have step := fun i => action_instances n i (quiet act List.mem_cons_self) is
      have later := ih (fun a ha => quiet a (List.mem_cons_of_mem act ha))
      mvcgen [spend, mark, note, step, later]

/-- A quiet script's setup, when it finishes, returns the render function of a new instance, made
last with no state record and no render call yet. -/
theorem instantiate_quiet_script {n s : Nat} {name : String} {props : Props} {caps : Nat} {w w' : World}
    {fn : RenderFn} (quiet : (w.program.scripts.getD s default).Quiet)
    (run : (instantiate (n + 1) (.script s) name props caps).run w = .ok fn w') :
    fn = .script w.instances.size ∧
      w'.instances = w.instances.push ⟨s, (w.program.scripts.getD s default).name, caps, none, props, 0, #[]⟩ := by
  obtain ⟨unseeded, steps⟩ := quiet
  rcases w with ⟨program, doc, renderers, states, capsets, timers, bus, busDisposers, instances, triggers,
    trace, budget⟩
  by_cases spent : budget = 0
  · subst spent
    rw [instantiate] at run
    simp only [spend, bind_run, get_run, beq_self_eq_true, if_true] at run
    cases run
  have positive : (budget == 0) = false := by simpa using spent
  dsimp only at unseeded steps ⊢
  simp only [instantiate, spend, mark, note, newInstance, bind_run, get_run, set_run, pure_run, modify_run, positive,
    Bool.false_eq_true, if_false, unseeded] at run
  -- The setup's quiet steps keep the instances, the new one last.
  split at run
  case h_2 => cases run
  rename_i w₁ acted
  have kept := ok_of_triple (actions_instances n _ steps _) rfl acted
  split at run
  · cases run
  · cases run
    exact ⟨rfl, kept⟩

/-- The first render call of an instance with no state record renders its script's first output. -/
theorem callRender_fresh_script {n i : Nat} {props : Props} {children : List Value} {s caps : Nat} {name : String}
    {given : Props} {w w' : World} {c : Value}
    (fresh : w.instances.getD i default = ⟨s, name, caps, none, given, 0, #[]⟩)
    (run : (callRender (n + 1) (.script i) props children).run w = .ok c w') :
    c = (w.program.scripts.getD s default).output 0 ⟨none, props, children, 0, some i, name⟩ := by
  rcases w with ⟨program, doc, renderers, states, capsets, timers, bus, busDisposers, instances, triggers,
    trace, budget⟩
  by_cases spent : budget = 0
  · subst spent
    rw [callRender] at run
    simp only [spend, bind_run, get_run, beq_self_eq_true, if_true] at run
    cases run
  have positive : (budget == 0) = false := by simpa using spent
  dsimp only at fresh ⊢
  simp only [callRender, spend, inst, mark, note, modifyInst, bind_run, get_run, set_run, pure_run, modify_run,
    positive, Bool.false_eq_true, if_false, fresh] at run
  cases run
  rfl

/-! The walk of the string backend over each kind of value, and a render phase's placing of each
kind of output. -/

theorem renderTree_text_eq {n r : Nat} {v : Value} (hv : v.asNode? = none) :
    renderTree (n + 1) r v = pure [.text v.text] := by
  rw [renderTree]
  simp only [hv]

/-- The walk over a node depends only on how the node is taken apart. -/
theorem renderTree_congr {n r : Nat} {v v' : Value} {parts : Parts} (hp : v.asNode?.bind split = some parts)
    (hp' : v'.asNode?.bind split = some parts) : renderTree n r v = renderTree n r v' := by
  cases n with
  | zero => simp only [renderTree]
  | succ n =>
    obtain ⟨items, hv, hs⟩ := Option.bind_eq_some_iff.1 hp
    obtain ⟨items', hv', hs'⟩ := Option.bind_eq_some_iff.1 hp'
    simp only [renderTree, hv, hs, hv', hs']

theorem renderTree_str_eq {n r : Nat} {v : Value} {parts : Parts} {s : String} (hp : v.asNode?.bind split = some parts)
    (ht : parts.tag = .str s) (other : s ≠ fragmentTag) :
    renderTree (n + 1) r v = (do
      let inner ← renderForest n r parts.children
      pure [.element s (attrPairs parts.props) inner]) := by
  obtain ⟨items, hv, hs⟩ := Option.bind_eq_some_iff.1 hp
  simp only [renderTree, hv, hs, ht, Value.component?, Value.isFragment, beq_false_of_ne other, Bool.false_eq_true,
    if_false]

theorem renderTree_fragment_eq {n r : Nat} {v : Value} {parts : Parts} (hp : v.asNode?.bind split = some parts)
    (ht : parts.tag = .str fragmentTag) : renderTree (n + 1) r v = renderForest n r parts.children := by
  obtain ⟨items, hv, hs⟩ := Option.bind_eq_some_iff.1 hp
  simp only [renderTree, hv, hs, ht, Value.component?, Value.isFragment, beq_self_eq_true, if_true]

theorem renderTree_component_eq {n r : Nat} {v : Value} {parts : Parts} {c : Component} {form : ComponentForm}
    (hp : v.asNode?.bind split = some parts) (ht : parts.tag.component? = some (c, form)) :
    renderTree (n + 1) r v = (do
      let caps ← compose (← renderer r).plugins .none
      let fn ← instantiate n c (c.name form) parts.props caps
      count r (fun m => { m with setups := m.setups + 1 })
      let expr ← callRender n fn parts.props parts.children
      count r (fun m => { m with renders := m.renders.bump "string" })
      renderTree n r expr) := by
  obtain ⟨items, hv, hs⟩ := Option.bind_eq_some_iff.1 hp
  simp only [renderTree, hv, hs, ht]

theorem placeOutput_str_eq {m r id : Nat} {p : MountPoint} {first : Bool} {expr : Value} {parts : Parts} {s : String}
    (hp : expr.asNode?.bind split = some parts) (ht : parts.tag = .str s) (other : s ≠ fragmentTag) :
    placeOutput m r id p first expr = (do
      let el ← hostElement r id p s
      applyProps r id el (classify parts.props) first
      mountChildren m r parts.children el id) := by
  simp only [placeOutput, hp, ht, Value.isFragment, beq_false_of_ne other, Value.component?, Option.isSome_none,
    Bool.false_eq_true, if_false]

theorem placeOutput_fragment_eq {m r id : Nat} {p : MountPoint} {first : Bool} {expr : Value} {parts : Parts}
    (hp : expr.asNode?.bind split = some parts) (ht : parts.tag = .str fragmentTag) :
    placeOutput m r id p first expr = mountChildren m r parts.children p.container id := by
  simp only [placeOutput, hp, ht, Value.isFragment, beq_self_eq_true, if_true]

theorem placeOutput_component_eq {m r id : Nat} {p : MountPoint} {first : Bool} {expr : Value} {parts : Parts}
    {c : Component} {form : ComponentForm} (hp : expr.asNode?.bind split = some parts)
    (ht : parts.tag.component? = some (c, form)) :
    placeOutput m r id p first expr = mount m r expr p.container (some id) := by
  -- A component tag is no string, so no fragment's.
  have notFragment : parts.tag.isFragment = false := by
    cases h : parts.tag <;> simp_all [Value.component?, Value.isFragment]
  simp only [placeOutput, hp, notFragment, ht, Option.isSome_some, Bool.false_eq_true, if_false, if_true]

end Run

/-! ## What clean components render -/

/-- The greeting renders clean content: a bold text. -/
theorem greeting_clean (prog : Program) (props : Props) :
    Clean prog (.node [.str "b", .str ("Godspeed you, " ++ (props.get "who").show ++ "!")]) :=
  .host rfl rfl rfl ⟨⟨by simp, by simp⟩, fun _ => rfl⟩ (fun c mem node => by simp_all [Value.asNode?])

/-- A clean component node is quiet, and whatever it renders on the string backend's first call,
set up from a world running the program, is clean again. -/
theorem Clean.output {prog : Program} {v : Value} {items : List Value} {parts : Parts} {c : Component}
    {form : ComponentForm} (clean : Clean prog v) (hv : v.asNode? = some items) (hs : split items = some parts)
    (ht : parts.tag.component? = some (c, form)) :
    c.Quiet prog ∧ ∀ {n : Nat} {name : String} {caps : Nat} {w₀ w₁ w₂ w₃ : World} {fn : RenderFn} {expr : Value},
      w₀.program = prog → (Run.instantiate n c name parts.props caps).run w₀ = .ok fn w₁ →
      w₂.instances = w₁.instances → w₂.program = w₁.program →
      (Run.callRender n fn parts.props parts.children).run w₂ = .ok expr w₃ → Clean prog expr := by
  cases clean with
  | host hv' hs' ht' =>
    rw [hv', Option.some.injEq] at hv
    subst hv
    rw [hs', Option.some.injEq] at hs
    subst hs
    rw [ht'] at ht
    cases ht
  | greeting hv' hs' ht' =>
    rw [hv', Option.some.injEq] at hv
    subst hv
    rw [hs', Option.some.injEq] at hs
    subst hs
    rw [ht', Value.component?, Option.some.injEq, Prod.mk.injEq] at ht
    obtain ⟨rfl, rfl⟩ := ht
    refine ⟨trivial, ?_⟩
    intro n name caps w₀ w₁ w₂ w₃ fn expr _ setup _ _ rendered
    -- The greeting's setup returns its render function, which renders a bold text.
    cases n with
    | zero =>
      rw [Run.instantiate] at setup
      cases setup
    | succ n =>
      rw [Run.instantiate] at setup
      cases setup
      cases rendered
      exact greeting_clean prog _
  | @script _ _ parts s _ hv' hs' ht' quiet outputs =>
    rw [hv', Option.some.injEq] at hv
    subst hv
    rw [hs', Option.some.injEq] at hs
    subst hs
    rw [ht', Value.component?, Option.some.injEq, Prod.mk.injEq] at ht
    obtain ⟨rfl, rfl⟩ := ht
    refine ⟨quiet, ?_⟩
    intro n name caps w₀ w₁ w₂ w₃ fn expr program setup instances programs rendered
    cases n with
    | zero =>
      rw [Run.instantiate] at setup
      cases setup
    | succ n =>
      -- The setup makes a fresh instance, which the first render call reads untouched.
      have kept : w₁.program = w₀.program :=
        ((Run.instantiate_confined (n + 1) (c := .script s) quiet _ _ _).program_of_ok program setup).trans
          program.symm
      rw [← program] at quiet
      obtain ⟨rfl, made⟩ := Run.instantiate_quiet_script quiet setup
      have fresh : w₂.instances.getD w₀.instances.size default =
          ⟨s, (w₀.program.scripts.getD s default).name, caps, none, parts.props, 0, #[]⟩ := by
        rw [instances, made]
        simp
      rw [Run.callRender_fresh_script fresh rendered, programs, kept, program]
      exact outputs _

end ViewEngine
