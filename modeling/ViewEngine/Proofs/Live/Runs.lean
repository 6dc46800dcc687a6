import Mathlib
import ViewEngine.Proofs.Engine.Calls
import ViewEngine.Proofs.Engine.Options
import ViewEngine.Proofs.Live.Render

/-! Runs of the live renderer keep its mount points matched with the document. Handlers, the bus
and re-render triggers reach the mount points only through re-renders of live mount points, and a
re-render is a render phase started with no place waiting on it; so under a steady program every
engine function outside the render phases keeps the invariant at every fuel, whether it finishes or
stops. A run of mounts into the mount containers, dispatched events and trigger calls then keeps it
call after call: after each call, every element the renderer made is owned by a live mount point
exactly when it hangs under a mount container. -/

namespace ViewEngine

open Host Std.Do

set_option mvcgen.warning false

/-- A document whose children are all elements of it is a forest from its end on: no element has
been made after it yet. -/
theorem Host.Document.Forest.of_closed {L : Type} {d : Host.Document L}
    (closed : ∀ x, ∀ e ∈ d.childElements x, e < d.elements.size) : d.Forest d.elements.size where
  closed := closed
  above x past e mem := by
    -- An element past the end has no children.
    simp [Host.Document.childElements, Host.Document.get?, Array.getElem?_eq_none past] at mem
  parent_unique e past x _ mem _ := absurd (closed x e mem) (Nat.not_lt.2 past)
  ordered x e mem past := absurd (closed x e mem) (Nat.not_lt.2 past)

/-- A renderer with no mount points yet, over a document whose children are all in it and whose
mount containers are already there, is live for the elements it goes on to make, under a steady
program. -/
theorem Live.start {w : World} {r : Nat} {roots : List Nat} (steady : w.program.Steady)
    (present : r < w.renderers.size) (empty : ∀ r', w.layout.points r' = [])
    (closed : ∀ x, ∀ e ∈ w.doc.childElements x, e < w.doc.elements.size)
    (containers : ∀ c ∈ roots, c < w.doc.elements.size) :
    Live r w.doc.elements.size roots w := by
  refine ⟨?_, steady⟩
  constructor
  case forest => exact .of_closed closed
  case base_le => exact Nat.le_refl _
  case roots_lt => exact containers
  case present => exact present
  case others => exact fun r' _ => empty r'
  case attached =>
    intro e past
    simp only [empty, List.not_mem_nil, false_and, exists_false, false_iff]
    rintro ⟨c, root, under⟩
    -- A chain of children from a container ends in the container or in a child, both already there.
    cases under with
    | refl => exact absurd (containers _ root) (Nat.not_lt.2 past)
    | child _ mem => exact absurd (closed _ e mem) (Nat.not_lt.2 past)
  all_goals simp [empty]

namespace Run

variable {r base : Nat} {roots : List Nat}

/-- A re-render of a live mount point keeps the invariant. Only the renderer of the invariant has
live mount points, and its re-render is a render phase with no place waiting on it. -/
theorem update_live (n r' id : Nat) :
    ⦃fun w => ⌜Live r base roots w ∧ ((w.layout.points r').find? (fun p => p.id == id)).isSome⌝⦄
    update n r' id
    ⦃post⟨fun _ w => ⌜Live r base roots w⌝, fun _ w => ⌜Live r base roots w⌝⟩⦄ := by
  by_cases same : r' = r
  · subst same
    rw [update.eq_def]
    cases n with
    | zero =>
      mvcgen
      exact ‹_ ∧ _›.1
    | succ n =>
      have phase := (@renderKeeps r' base roots n).renderPhase id false []
      dsimp only
      mvcgen [recover, phase] with grind [Targets, Older, World.restore]
  · -- Another renderer has no live mount points, so nothing asks it to re-render.
    intro w pre
    obtain ⟨live, found⟩ := pre
    simp [live.sound.others r' same] at found

/-- Calling a re-render trigger keeps the invariant: it re-renders a live mount point, if any. -/
theorem fire_live (n : Nat) (target : TriggerTarget) :
    ⦃fun w => ⌜Live r base roots w⌝⦄ fire n target
    ⦃post⟨fun _ w => ⌜Live r base roots w⌝, fun _ w => ⌜Live r base roots w⌝⟩⦄ := by
  rw [fire.eq_def]
  cases n with
  | zero => mvcgen
  | succ n =>
    have again := @update_live r base roots n
    dsimp only
    mvcgen [point?_spec, again] with grind only [→ Layout.Retouch.trans, → Live.of_retouch, Option.isSome_some]

/-- An instance's re-render capability keeps the invariant: it calls a re-render trigger. -/
theorem triggerInstance_live (n i : Nat) :
    ⦃fun w => ⌜Live r base roots w⌝⦄ triggerInstance (n + 1) i
    ⦃post⟨fun _ w => ⌜Live r base roots w⌝, fun _ w => ⌜Live r base roots w⌝⟩⦄ := by
  rw [triggerInstance.eq_def]
  dsimp only
  have again := @fire_live r base roots n
  mvcgen [inst_spec, capset_spec, mark_spec, attempt, again, note_spec] with
    grind only [→ Layout.Retouch.trans, → Live.of_retouch, World.restore]

/-- The disposers of the bus's own subscriptions are not part of the layout. -/
@[grind =] theorem World.layout_busDisposers (w : World) (ds : Array Disposer) :
    { w with busDisposers := ds }.layout = w.layout := rfl

section Kept

variable (r base : Nat) (roots : List Nat)

/-- The handlers, actions, capability checks and bus deliveries, at one fuel, each keep the
invariant whether they finish or stop. -/
structure LiveKept (n : Nat) : Prop where
  callHandler : ∀ h ev, ⦃fun w => ⌜Live r base roots w⌝⦄ callHandler n h ev
    ⦃post⟨fun _ w => ⌜Live r base roots w⌝, fun _ w => ⌜Live r base roots w⌝⟩⦄
  actions : ∀ owner acts, ⦃fun w => ⌜Live r base roots w⌝⦄ actions n owner acts
    ⦃post⟨fun _ w => ⌜Live r base roots w⌝, fun _ w => ⌜Live r base roots w⌝⟩⦄
  action : ∀ i act, ⦃fun w => ⌜Live r base roots w⌝⦄ action n i act
    ⦃post⟨fun _ w => ⌜Live r base roots w⌝, fun _ w => ⌜Live r base roots w⌝⟩⦄
  triggerInstance : ∀ i, ⦃fun w => ⌜Live r base roots w⌝⦄ triggerInstance n i
    ⦃post⟨fun _ w => ⌜Live r base roots w⌝, fun _ w => ⌜Live r base roots w⌝⟩⦄
  checkCap : ∀ caps name, ⦃fun w => ⌜Live r base roots w⌝⦄ checkCap n caps name
    ⦃post⟨fun _ w => ⌜Live r base roots w⌝, fun _ w => ⌜Live r base roots w⌝⟩⦄
  callEmit : ∀ f topic data, ⦃fun w => ⌜Live r base roots w⌝⦄ callEmit n f topic data
    ⦃post⟨fun _ w => ⌜Live r base roots w⌝, fun _ w => ⌜Live r base roots w⌝⟩⦄
  emitOnBus : ∀ topic data, ⦃fun w => ⌜Live r base roots w⌝⦄ emitOnBus n topic data
    ⦃post⟨fun _ w => ⌜Live r base roots w⌝, fun _ w => ⌜Live r base roots w⌝⟩⦄
  deliver : ∀ s topic data, ⦃fun w => ⌜Live r base roots w⌝⦄ deliver n s topic data
    ⦃post⟨fun _ w => ⌜Live r base roots w⌝, fun _ w => ⌜Live r base roots w⌝⟩⦄
  busActs : ∀ acts, ⦃fun w => ⌜Live r base roots w⌝⦄ busActs n acts
    ⦃post⟨fun _ w => ⌜Live r base roots w⌝, fun _ w => ⌜Live r base roots w⌝⟩⦄

end Kept

section Steps

variable {n : Nat} (ih : LiveKept r base roots n)
include ih

theorem callHandler_live (h : Routine) (ev : Option Event) :
    ⦃fun w => ⌜Live r base roots w⌝⦄ callHandler (n + 1) h ev
    ⦃post⟨fun _ w => ⌜Live r base roots w⌝, fun _ w => ⌜Live r base roots w⌝⟩⦄ := by
  rw [callHandler.eq_def]
  dsimp only
  have body := ih.actions
  cases h <;> mvcgen [spend_spec, mark_spec, body, stateRecord_spec, setState_spec, typedCap_spec,
    callLog_spec] with grind only [→ Layout.Retouch.trans, → Live.of_retouch, World.restore]

theorem actions_live (owner : Option Nat) (acts : List Action) :
    ⦃fun w => ⌜Live r base roots w⌝⦄ actions (n + 1) owner acts
    ⦃post⟨fun _ w => ⌜Live r base roots w⌝, fun _ w => ⌜Live r base roots w⌝⟩⦄ := by
  have first := ih.action
  have others := ih.actions
  cases acts <;> rw [actions.eq_def] <;> mvcgen [spend_spec, mark_spec, first, others] with
    grind only [→ Layout.Retouch.trans, → Live.of_retouch, World.restore]

theorem action_live (i : Nat) (act : Action) :
    ⦃fun w => ⌜Live r base roots w⌝⦄ action (n + 1) i act
    ⦃post⟨fun _ w => ⌜Live r base roots w⌝, fun _ w => ⌜Live r base roots w⌝⟩⦄ := by
  rw [action.eq_def]
  dsimp only
  have emit := ih.callEmit
  have trigger := ih.triggerInstance
  have check := ih.checkCap
  cases act <;> mvcgen [inst_spec, actionContext_spec, setState_spec, mark_spec, stateRecord_spec,
    typedCap_spec, callLog_spec, emit, callOn_spec, modifyInst_spec, dispose_spec, trigger, check,
    capset_spec, note_spec] with grind only [→ Layout.Retouch.trans, → Live.of_retouch, World.restore]

theorem checkCap_live (caps : Nat) (name : String) :
    ⦃fun w => ⌜Live r base roots w⌝⦄ checkCap (n + 1) caps name
    ⦃post⟨fun _ w => ⌜Live r base roots w⌝, fun _ w => ⌜Live r base roots w⌝⟩⦄ := by
  rw [checkCap.eq_def]
  dsimp only
  have emit := ih.callEmit
  split <;> mvcgen [typedCap_spec, mark_spec, callState_spec, note_spec, stateRecord_spec, callLog_spec,
    callTimer_spec, callClear_spec, emit, callOn_spec, dispose_spec, capset_spec] with
    grind only [→ Layout.Retouch.trans, → Live.of_retouch, World.restore]

theorem callEmit_live (f : Value) (topic : String) (data : Value) :
    ⦃fun w => ⌜Live r base roots w⌝⦄ callEmit (n + 1) f topic data
    ⦃post⟨fun _ w => ⌜Live r base roots w⌝, fun _ w => ⌜Live r base roots w⌝⟩⦄ := by
  rw [callEmit.eq_def]
  dsimp only
  have bus := ih.emitOnBus
  mvcgen [bus, note_spec] with grind only [→ Layout.Retouch.trans, → Live.of_retouch, World.restore]

theorem emitOnBus_live (topic : String) (data : Value) :
    ⦃fun w => ⌜Live r base roots w⌝⦄ emitOnBus (n + 1) topic data
    ⦃post⟨fun _ w => ⌜Live r base roots w⌝, fun _ w => ⌜Live r base roots w⌝⟩⦄ := by
  rw [emitOnBus.eq_def]
  dsimp only
  have each := ih.deliver
  -- Subscribers receive one after another, each from the world the one before left.
  mvcgen [spend_spec, each] invariants
  · post⟨fun _ w => ⌜Live r base roots w⌝, fun _ w => ⌜Live r base roots w⌝⟩
  with grind only [→ Layout.Retouch.trans, → Live.of_retouch, World.restore]

theorem deliver_live (s : Subscriber) (topic : String) (data : Value) :
    ⦃fun w => ⌜Live r base roots w⌝⦄ deliver (n + 1) s topic data
    ⦃post⟨fun _ w => ⌜Live r base roots w⌝, fun _ w => ⌜Live r base roots w⌝⟩⦄ := by
  rw [deliver.eq_def]
  dsimp only
  have steps := ih.busActs
  have trigger := ih.triggerInstance
  cases s <;> mvcgen [note_spec, steps, setState_spec, inst_spec, trigger] with
    grind only [→ Layout.Retouch.trans, → Live.of_retouch, World.restore]

theorem busActs_live (acts : List BusAct) :
    ⦃fun w => ⌜Live r base roots w⌝⦄ busActs (n + 1) acts
    ⦃post⟨fun _ w => ⌜Live r base roots w⌝, fun _ w => ⌜Live r base roots w⌝⟩⦄ := by
  have bus := ih.emitOnBus
  have others := ih.busActs
  cases acts <;> rw [busActs.eq_def] <;> mvcgen [dispose_spec, callOn_spec, mark_spec, bus, others] with
    grind only [→ Layout.Retouch.trans, → Live.of_retouch, World.restore, World.layout_busDisposers]

end Steps

/-- Out of fuel, each stops at once. -/
theorem LiveKept.zero : LiveKept r base roots 0 where
  callHandler _ _ := by rw [callHandler.eq_def]; mvcgen
  actions _ _ := by rw [actions.eq_def]; mvcgen
  action _ _ := by rw [action.eq_def]; mvcgen
  triggerInstance _ := by rw [triggerInstance.eq_def]; mvcgen
  checkCap _ _ := by rw [checkCap.eq_def]; mvcgen
  callEmit _ _ _ := by rw [callEmit.eq_def]; mvcgen
  emitOnBus _ _ := by rw [emitOnBus.eq_def]; mvcgen
  deliver _ _ _ := by rw [deliver.eq_def]; mvcgen
  busActs _ := by rw [busActs.eq_def]; mvcgen

theorem LiveKept.succ {n : Nat} (ih : LiveKept r base roots n) : LiveKept r base roots (n + 1) :=
  ⟨callHandler_live ih, actions_live ih, action_live ih, triggerInstance_live n, checkCap_live ih,
    callEmit_live ih, emitOnBus_live ih, deliver_live ih, busActs_live ih⟩

/-- At every fuel, the handlers, actions, capability checks and bus deliveries keep the invariant. -/
theorem liveKept : ∀ n, LiveKept r base roots n
  | 0 => .zero
  | n + 1 => (liveKept n).succ

/-- Running a listener keeps the invariant: a component's handler runs, then its mount point is
re-rendered while it is live. -/
theorem listen_live (n : Nat) (l : Listener) (ev : Event) :
    ⦃fun w => ⌜Live r base roots w⌝⦄ listen n l ev
    ⦃post⟨fun _ w => ⌜Live r base roots w⌝, fun _ w => ⌜Live r base roots w⌝⟩⦄ := by
  rw [listen.eq_def]
  cases n with
  | zero => mvcgen
  | succ n =>
    dsimp only
    have handler := (@liveKept r base roots n).callHandler
    have again := @update_live r base roots n
    cases l <;> mvcgen [note_spec, fail, recover, count_spec, handler, point?_spec, again] with
      grind only [→ Layout.Retouch.trans, → Live.of_retouch, World.restore]

/-- Dispatching an event keeps the invariant: its listeners run one after another. -/
theorem dispatch_live (n : Nat) (ev : Event) :
    ⦃fun w => ⌜Live r base roots w⌝⦄ dispatch n ev
    ⦃post⟨fun _ w => ⌜Live r base roots w⌝, fun _ w => ⌜Live r base roots w⌝⟩⦄ := by
  rw [dispatch.eq_def]
  cases n with
  | zero => mvcgen
  | succ n =>
    dsimp only
    have each := @listen_live r base roots n
    -- A failed listener is collected, and the next one runs from the world it left.
    mvcgen [attempt, each] invariants
    · post⟨fun _ w => ⌜Live r base roots w⌝, fun _ w => ⌜Live r base roots w⌝⟩

end Run

/-- A call mounts, if it mounts at all, into one of the mount containers. -/
def Call.Into (roots : List Nat) : Call → Prop
  | .mount _ container => container ∈ roots
  | _ => True

namespace Run

variable {r base : Nat} {roots : List Nat}

/-- A call into the mount containers keeps the invariant, whether it finishes or stops. -/
theorem call_live (c : Call) (into : c.Into roots) :
    ⦃fun w => ⌜Live r base roots w⌝⦄ c.run r
    ⦃post⟨fun _ w => ⌜Live r base roots w⌝, fun _ w => ⌜Live r base roots w⌝⟩⦄ := by
  cases c
  case dispatch target type detail =>
    have events := @dispatch_live r base roots depthAllowance
    mvcgen [Call.run, dispatchOn, events]
  case emit topic data =>
    have bus := (@liveKept r base roots depthAllowance).emitOnBus
    mvcgen [Call.run, emit, bus]
  case trigger target =>
    have again := @fire_live r base roots depthAllowance
    mvcgen [Call.run, fireTrigger, attempt, again]
  case mount v container =>
    -- A mount at the top goes into its container, owned by no mount point.
    have mounted := (@renderKeeps r base roots mountAllowance).mount v container none
      [(container, none)]
    mvcgen [Call.run, mountInto, attempt, recover, mounted] with grind [Targets, Target, Call.Into]

/-- Calls into the mount containers, each from where the one before stopped, keep the invariant. -/
theorem runAll_live (calls : List Call) (into : ∀ c ∈ calls, c.Into roots) {w : World}
    (live : Live r base roots w) : Live r base roots (Call.runAll r calls w) := by
  induction calls generalizing w with
  | nil => exact live
  | cons c rest ih =>
    exact ih (fun c' mem => into c' (List.mem_cons_of_mem c mem))
      (leaves_of_triple (call_live c (into c List.mem_cons_self)) live)

/-- Under a steady program, a renderer that starts with no mount points keeps them matched with the
document through any calls that mount into containers already there: after the calls, each element
it made is owned by a live mount point exactly when the element hangs, through children lists, under
one of the mount containers. -/
theorem elements_attached_iff_owned {w : World} (steady : w.program.Steady) (present : r < w.renderers.size)
    (empty : ∀ r', w.layout.points r' = []) (closed : ∀ x, ∀ e ∈ w.doc.childElements x, e < w.doc.elements.size)
    (containers : ∀ c ∈ roots, c < w.doc.elements.size) (calls : List Call) (into : ∀ c ∈ calls, c.Into roots) :
    ∀ e, w.doc.elements.size ≤ e →
      ((∃ p ∈ (Call.runAll r calls w).layout.points r, p.element = some e) ↔
        (Call.runAll r calls w).layout.Attached roots e) :=
  (runAll_live calls into (Live.start steady present empty closed containers)).sound.attached

/-- A component rendering a `div` holding a `span`, then a `div` holding a `b`, mounted into the body
of a one-element document by a renderer that clears on update, then re-rendered twice by its trigger.
Each cleared re-render empties the `div` and releases the mount point of what it held: afterwards the
`span` and the first `b` hang under the body no more, and the last `b` does, owned by a live mount
point; every element the renderer made hangs under the body exactly while a live mount point owns it. -/
theorem cleared_rerenders_detach_released :
    let S : Script := ⟨"S", .component, false, .none, [],
      [.list false [.value (.str "div"), .list false [.value (.str "span")]],
        .list false [.value (.str "div"), .list false [.value (.str "b")]]]⟩
    let w : World := { World.fresh ⟨#[S], #[], PropsDecoder.zero⟩
        #[{ Renderer.default with plugins := [.trigger], clearOnUpdate := true }] with
      doc := (Host.Document.empty.create "body").1 }
    let calls := [Call.mount (.list [.component (.script 0) .component]) 0, Call.trigger (.mountPoint 0 1),
      Call.trigger (.mountPoint 0 1)]
    w.program.Steady ∧ (w.renderers.getD 0 Renderer.default).clearOnUpdate = true ∧ w.doc.elements.size = 1 ∧
      ¬ (Call.runAll 0 calls w).layout.Attached [0] 2 ∧ ¬ (Call.runAll 0 calls w).layout.Attached [0] 3 ∧
      (Call.runAll 0 calls w).layout.Attached [0] 4 ∧
      ∀ e, 1 ≤ e → ((∃ p ∈ (Call.runAll 0 calls w).layout.points 0, p.element = some e) ↔
        (Call.runAll 0 calls w).layout.Attached [0] e) := by
  intro S w calls
  -- The one script renders a `div` each time and sets up with nothing.
  have steady : w.program.Steady := by
    intro s mem
    have script : s = S := by simpa [w, World.fresh] using mem
    subst script
    refine ⟨⟨.element, fun t mem => ?_⟩, by simp [S]⟩
    simp only [S, List.mem_cons, List.not_mem_nil, or_false] at mem
    rcases mem with rfl | rfl <;> rfl
  have empty : ∀ r', w.layout.points r' = [] := by
    intro r'
    cases r' <;> rfl
  have closed : ∀ x, ∀ e ∈ w.doc.childElements x, e < w.doc.elements.size := by
    intro x e mem
    cases x <;> simp [w, Host.Document.childElements, Host.Document.get?, Host.Document.create,
      Host.Document.empty, Host.Element.fresh] at mem
  have size : w.doc.elements.size = 1 := rfl
  have owned : ∀ e, 1 ≤ e → ((∃ p ∈ (Call.runAll 0 calls w).layout.points 0, p.element = some e) ↔
      (Call.runAll 0 calls w).layout.Attached [0] e) :=
    elements_attached_iff_owned steady (by decide) empty closed (by simp [size]) calls (by simp [calls, Call.Into])
  -- After the calls the live mount points are the component's, on the `div`, and the last `b`'s.
  have live : ((Call.runAll 0 calls w).layout.points 0).map (·.element) = [some 1, some 4] := by
    dsimp only [calls, w, S]
    decide +kernel
  have unowned : ∀ e, e ≠ 1 → e ≠ 4 → ¬ ∃ p ∈ (Call.runAll 0 calls w).layout.points 0, p.element = some e := by
    rintro e one four ⟨p, mem, elt⟩
    have listed := List.mem_map_of_mem (f := MountPoint.element) mem
    rw [live, elt] at listed
    simp only [List.mem_cons, Option.some.injEq, List.not_mem_nil, or_false] at listed
    omega
  have last : some 4 ∈ ((Call.runAll 0 calls w).layout.points 0).map (·.element) := by
    rw [live]
    simp
  obtain ⟨p, mem, elt⟩ := List.mem_map.1 last
  exact ⟨steady, rfl, size, fun attached => unowned 2 (by decide) (by decide) ((owned 2 (by decide)).2 attached),
    fun attached => unowned 3 (by decide) (by decide) ((owned 3 (by decide)).2 attached),
    (owned 4 (by decide)).1 ⟨p, mem, elt⟩, owned⟩

end Run

end ViewEngine
