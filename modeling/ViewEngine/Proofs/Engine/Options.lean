import Mathlib
import ViewEngine.Proofs.Engine.Recovery
import ViewEngine.Proofs.Live.Render

/-! The options a renderer is built with, its plugins, whether the string backend escapes and
whether a re-render replaces children, are never changed by a run. Engine steps change a renderer's
counters, its next mount point number and its mount points only; every engine function, at every
fuel, keeps the options of every renderer whether it finishes or stops. -/

namespace ViewEngine

open Std.Do

set_option mvcgen.warning false

/-- What a renderer is built with: its plugins, whether the string backend escapes, and whether a
re-render replaces children. -/
def Renderer.options (rd : Renderer) : List Plugin × Bool × Bool := (rd.plugins, rd.escape, rd.clearOnUpdate)

/-- The options of each renderer of a world, by number. -/
def World.options (w : World) (r : Nat) : List Plugin × Bool × Bool :=
  (w.renderers.getD r Renderer.default).options

/-- A world built with another's renderers has its options. -/
@[simp, grind =] theorem World.options_mk (w : World) (program doc states capsets timers bus busDisposers instances
    triggers trace budget) :
    (World.mk program doc w.renderers states capsets timers bus busDisposers instances triggers trace budget).options =
      w.options := rfl

/-- Changing one renderer in a way that keeps its options keeps every renderer's options. -/
theorem World.options_modify (w : World) (r : Nat) (f : Renderer → Renderer)
    (keeps : ∀ rd, (f rd).options = rd.options) :
    { w with renderers := w.renderers.modify r f }.options = w.options := by
  funext r'
  simp only [World.options, Array.getD_modify]
  split
  · exact keeps _
  · rfl

namespace Run

/-! Every step is specified against the options `o` it starts with. -/

section Primitives

variable (o : Nat → List Plugin × Bool × Bool)

theorem note_options (n : Note) :
    ⦃fun w => ⌜w.options = o⌝⦄ note n ⦃⇓ _ w => ⌜w.options = o⌝⦄ := by
  mvcgen [note]

theorem mark_options (text : String) :
    ⦃fun w => ⌜w.options = o⌝⦄ mark text ⦃⇓ _ w => ⌜w.options = o⌝⦄ := by
  mvcgen [mark, note_options]

theorem spend_options :
    ⦃fun w => ⌜w.options = o⌝⦄ spend ⦃post⟨fun _ w => ⌜w.options = o⌝, fun _ w => ⌜w.options = o⌝⟩⦄ := by
  mvcgen [spend]

theorem renderer_options (r : Nat) :
    ⦃fun w => ⌜w.options = o⌝⦄ renderer r
    ⦃⇓ rd w => ⌜w.options = o ∧ rd = w.renderers.getD r Renderer.default⌝⦄ := by
  mvcgen [renderer]

theorem point?_options (r id : Nat) :
    ⦃fun w => ⌜w.options = o⌝⦄ point? r id ⦃⇓ _ w => ⌜w.options = o⌝⦄ := by
  mvcgen [point?, renderer]

theorem stateRecord_options (i : Nat) :
    ⦃fun w => ⌜w.options = o⌝⦄ stateRecord i ⦃⇓ _ w => ⌜w.options = o⌝⦄ := by
  mvcgen [stateRecord]

theorem setState_options (i : Nat) (key : String) (x : Value) :
    ⦃fun w => ⌜w.options = o⌝⦄ setState i key x ⦃⇓ _ w => ⌜w.options = o⌝⦄ := by
  mvcgen [setState]

theorem capset_options (i : Nat) :
    ⦃fun w => ⌜w.options = o⌝⦄ capset i ⦃⇓ _ w => ⌜w.options = o⌝⦄ := by
  mvcgen [capset]

theorem inst_options (i : Nat) :
    ⦃fun w => ⌜w.options = o⌝⦄ inst i ⦃⇓ _ w => ⌜w.options = o⌝⦄ := by
  mvcgen [inst]

theorem typedCap_options (caps : Nat) (name : String) (t : CapType) :
    ⦃fun w => ⌜w.options = o⌝⦄ typedCap caps name t
    ⦃post⟨fun _ w => ⌜w.options = o⌝, fun _ w => ⌜w.options = o⌝⟩⦄ := by
  mvcgen [typedCap, capset, capabilityFailed]

theorem callState_options (f : Value) (init : Option (List (String × Value))) :
    ⦃fun w => ⌜w.options = o⌝⦄ callState f init ⦃⇓ _ w => ⌜w.options = o⌝⦄ := by
  mvcgen [callState, newState]

theorem callLog_options (f : Value) (args : List Value) :
    ⦃fun w => ⌜w.options = o⌝⦄ callLog f args ⦃⇓ _ w => ⌜w.options = o⌝⦄ := by
  mvcgen [callLog, note_options]

theorem callTimer_options (f : Value) :
    ⦃fun w => ⌜w.options = o⌝⦄ callTimer f ⦃⇓ _ w => ⌜w.options = o⌝⦄ := by
  mvcgen [callTimer, startTimer]

theorem callClear_options (f : Value) (id : Nat) :
    ⦃fun w => ⌜w.options = o⌝⦄ callClear f id ⦃⇓ _ w => ⌜w.options = o⌝⦄ := by
  mvcgen [callClear, stopTimer]

theorem callOn_options (f : Value) (topic : String) (sub : Subscriber) :
    ⦃fun w => ⌜w.options = o⌝⦄ callOn f topic sub ⦃⇓ _ w => ⌜w.options = o⌝⦄ := by
  mvcgen [callOn, mark_options] with grind [World.restore]

theorem dispose_options (d : Disposer) :
    ⦃fun w => ⌜w.options = o⌝⦄ dispose d ⦃⇓ _ w => ⌜w.options = o⌝⦄ := by
  mvcgen [dispose]

theorem actionContext_options (i : Nat) :
    ⦃fun w => ⌜w.options = o⌝⦄ actionContext i ⦃⇓ _ w => ⌜w.options = o⌝⦄ := by
  mvcgen [actionContext, inst, stateRecord]

theorem modifyInst_options (i : Nat) (f : Instance → Instance) :
    ⦃fun w => ⌜w.options = o⌝⦄ modifyInst i f ⦃⇓ _ w => ⌜w.options = o⌝⦄ := by
  mvcgen [modifyInst]

theorem newInstance_options (script : Nat) (name : String) (caps : Nat) (props : Props) :
    ⦃fun w => ⌜w.options = o⌝⦄ newInstance script name caps props ⦃⇓ _ w => ⌜w.options = o⌝⦄ := by
  mvcgen [newInstance]

theorem modifyDoc_options (f : Host.Document Listener → Host.Document Listener) :
    ⦃fun w => ⌜w.options = o⌝⦄ modifyDoc f ⦃⇓ _ w => ⌜w.options = o⌝⦄ := by
  mvcgen [modifyDoc]

theorem createElement_options (tag : String) :
    ⦃fun w => ⌜w.options = o⌝⦄ createElement tag ⦃⇓ _ w => ⌜w.options = o⌝⦄ := by
  mvcgen [createElement]

/-- The changes the engine makes to a renderer, to its counters, next number and mount points, keep
its options. -/
theorem modifyRenderer_options (r : Nat) (f : Renderer → Renderer) (keeps : ∀ rd, (f rd).options = rd.options) :
    ⦃fun w => ⌜w.options = o⌝⦄ modifyRenderer r f ⦃⇓ _ w => ⌜w.options = o⌝⦄ := by
  mvcgen [modifyRenderer] with exact (World.options_modify _ r f keeps).trans ‹_›

theorem count_options (r : Nat) (f : Metrics → Metrics) :
    ⦃fun w => ⌜w.options = o⌝⦄ count r f ⦃⇓ _ w => ⌜w.options = o⌝⦄ :=
  modifyRenderer_options o r _ fun _ => rfl

theorem modifyPoint_options (r id : Nat) (f : MountPoint → MountPoint) :
    ⦃fun w => ⌜w.options = o⌝⦄ modifyPoint r id f ⦃⇓ _ w => ⌜w.options = o⌝⦄ :=
  modifyRenderer_options o r _ fun _ => rfl

theorem reserve_options (r : Nat) :
    ⦃fun w => ⌜w.options = o⌝⦄ reserve r ⦃⇓ _ w => ⌜w.options = o⌝⦄ := by
  mvcgen [reserve, renderer, modifyRenderer_options] with grind [Renderer.options]

theorem dropPoints_options (r : Nat) (ids : List Nat) :
    ⦃fun w => ⌜w.options = o⌝⦄ dropPoints r ids ⦃⇓ _ w => ⌜w.options = o⌝⦄ := by
  mvcgen [dropPoints, renderer, modifyRenderer_options] with grind [Renderer.options]

theorem register_options (r : Nat) (p : MountPoint) (owner : Option Nat) :
    ⦃fun w => ⌜w.options = o⌝⦄ register r p owner ⦃⇓ _ w => ⌜w.options = o⌝⦄ := by
  mvcgen [register, addPoint, modifyRenderer_options, count_options, modifyPoint_options] with
    grind [Renderer.options]

theorem release_options (r id : Nat) :
    ⦃fun w => ⌜w.options = o⌝⦄ release r id ⦃⇓ _ w => ⌜w.options = o⌝⦄ := by
  mvcgen [release, point?_options, dropPoints_options, modifyPoint_options, count_options] with grind [World.restore]

theorem hostElement_options (r id : Nat) (p : MountPoint) (tag : String) :
    ⦃fun w => ⌜w.options = o⌝⦄ hostElement r id p tag ⦃⇓ _ w => ⌜w.options = o⌝⦄ := by
  mvcgen [hostElement, attach, createElement_options, modifyDoc_options, modifyPoint_options, renderer_options,
    clearElement, release_options] with grind [World.restore]

theorem applyProps_options (r id el : Nat) (props : List Attr) (first : Bool) :
    ⦃fun w => ⌜w.options = o⌝⦄ applyProps r id el props first
    ⦃post⟨fun _ w => ⌜w.options = o⌝, fun _ w => ⌜w.options = o⌝⟩⦄ := by
  mvcgen [applyProps, applyProp, modifyDoc_options, fail] invariants
  · post⟨fun _ w => ⌜w.options = o⌝, fun _ w => ⌜w.options = o⌝⟩
  with grind [World.restore]

theorem textOf_options (r : Nat) (text : String) :
    ⦃fun w => ⌜w.options = o⌝⦄ textOf r text ⦃⇓ _ w => ⌜w.options = o⌝⦄ := by
  mvcgen [textOf, renderer]

theorem attrMarkup_options (r : Nat) (props : Props) :
    ⦃fun w => ⌜w.options = o⌝⦄ attrMarkup r props ⦃⇓ _ w => ⌜w.options = o⌝⦄ := by
  mvcgen [attrMarkup, textOf_options] invariants
  · ⇓ _ w => ⌜w.options = o⌝
  · ⇓ _ w => ⌜w.options = o⌝
  with grind [World.restore]

theorem compose_options (ps : List Plugin) (t : TriggerTarget) :
    ⦃fun w => ⌜w.options = o⌝⦄ compose ps t ⦃⇓ _ w => ⌜w.options = o⌝⦄ := by
  unfold compose
  mvcgen invariants
  · ⇓ _ w => ⌜w.options = o⌝
  case vc1.step =>
    -- Each plugin adds capabilities to the set it is handed; none touches a renderer.
    cases ‹Plugin› <;> mvcgen [composeOne]

end Primitives

/-- A render function reads states and instances and marks the trace; it never recurses. -/
theorem callRender_options (o : Nat → List Plugin × Bool × Bool) (n : Nat) (fn : RenderFn) (props : Props)
    (children : List Value) :
    ⦃fun w => ⌜w.options = o⌝⦄ callRender n fn props children
    ⦃post⟨fun _ w => ⌜w.options = o⌝, fun _ w => ⌜w.options = o⌝⟩⦄ := by
  rw [callRender.eq_def]
  cases n
  · mvcgen
  · cases fn <;> mvcgen [spend_options, inst_options, mark_options, modifyInst_options, stateRecord_options]
      with grind

/-- Every engine function, at one fuel, keeps the options of every renderer, whether it finishes or
stops. -/
structure OptionsKept (n : Nat) : Prop where
  instantiate : ∀ o c name props caps, ⦃fun w => ⌜w.options = o⌝⦄ instantiate n c name props caps
    ⦃post⟨fun _ w => ⌜w.options = o⌝, fun _ w => ⌜w.options = o⌝⟩⦄
  callRender : ∀ o fn props children, ⦃fun w => ⌜w.options = o⌝⦄ callRender n fn props children
    ⦃post⟨fun _ w => ⌜w.options = o⌝, fun _ w => ⌜w.options = o⌝⟩⦄
  renderString : ∀ o r v, ⦃fun w => ⌜w.options = o⌝⦄ renderString n r v
    ⦃post⟨fun _ w => ⌜w.options = o⌝, fun _ w => ⌜w.options = o⌝⟩⦄
  renderAll : ∀ o r vs, ⦃fun w => ⌜w.options = o⌝⦄ renderAll n r vs
    ⦃post⟨fun _ w => ⌜w.options = o⌝, fun _ w => ⌜w.options = o⌝⟩⦄
  mount : ∀ o r v container owner, ⦃fun w => ⌜w.options = o⌝⦄ mount n r v container owner
    ⦃post⟨fun _ w => ⌜w.options = o⌝, fun _ w => ⌜w.options = o⌝⟩⦄
  renderPhase : ∀ o r id first, ⦃fun w => ⌜w.options = o⌝⦄ renderPhase n r id first
    ⦃post⟨fun _ w => ⌜w.options = o⌝, fun _ w => ⌜w.options = o⌝⟩⦄
  mountChildren : ∀ o r cs into owner, ⦃fun w => ⌜w.options = o⌝⦄ mountChildren n r cs into owner
    ⦃post⟨fun _ w => ⌜w.options = o⌝, fun _ w => ⌜w.options = o⌝⟩⦄
  update : ∀ o r id, ⦃fun w => ⌜w.options = o⌝⦄ update n r id
    ⦃post⟨fun _ w => ⌜w.options = o⌝, fun _ w => ⌜w.options = o⌝⟩⦄
  fire : ∀ o target, ⦃fun w => ⌜w.options = o⌝⦄ fire n target
    ⦃post⟨fun _ w => ⌜w.options = o⌝, fun _ w => ⌜w.options = o⌝⟩⦄
  dispatch : ∀ o ev, ⦃fun w => ⌜w.options = o⌝⦄ dispatch n ev
    ⦃post⟨fun _ w => ⌜w.options = o⌝, fun _ w => ⌜w.options = o⌝⟩⦄
  listen : ∀ o l ev, ⦃fun w => ⌜w.options = o⌝⦄ listen n l ev
    ⦃post⟨fun _ w => ⌜w.options = o⌝, fun _ w => ⌜w.options = o⌝⟩⦄
  callHandler : ∀ o h ev, ⦃fun w => ⌜w.options = o⌝⦄ callHandler n h ev
    ⦃post⟨fun _ w => ⌜w.options = o⌝, fun _ w => ⌜w.options = o⌝⟩⦄
  actions : ∀ o owner acts, ⦃fun w => ⌜w.options = o⌝⦄ actions n owner acts
    ⦃post⟨fun _ w => ⌜w.options = o⌝, fun _ w => ⌜w.options = o⌝⟩⦄
  action : ∀ o i act, ⦃fun w => ⌜w.options = o⌝⦄ action n i act
    ⦃post⟨fun _ w => ⌜w.options = o⌝, fun _ w => ⌜w.options = o⌝⟩⦄
  triggerInstance : ∀ o i, ⦃fun w => ⌜w.options = o⌝⦄ triggerInstance n i
    ⦃post⟨fun _ w => ⌜w.options = o⌝, fun _ w => ⌜w.options = o⌝⟩⦄
  checkCap : ∀ o caps name, ⦃fun w => ⌜w.options = o⌝⦄ checkCap n caps name
    ⦃post⟨fun _ w => ⌜w.options = o⌝, fun _ w => ⌜w.options = o⌝⟩⦄
  callEmit : ∀ o f topic data, ⦃fun w => ⌜w.options = o⌝⦄ callEmit n f topic data
    ⦃post⟨fun _ w => ⌜w.options = o⌝, fun _ w => ⌜w.options = o⌝⟩⦄
  emitOnBus : ∀ o topic data, ⦃fun w => ⌜w.options = o⌝⦄ emitOnBus n topic data
    ⦃post⟨fun _ w => ⌜w.options = o⌝, fun _ w => ⌜w.options = o⌝⟩⦄
  deliver : ∀ o s topic data, ⦃fun w => ⌜w.options = o⌝⦄ deliver n s topic data
    ⦃post⟨fun _ w => ⌜w.options = o⌝, fun _ w => ⌜w.options = o⌝⟩⦄
  busActs : ∀ o acts, ⦃fun w => ⌜w.options = o⌝⦄ busActs n acts
    ⦃post⟨fun _ w => ⌜w.options = o⌝, fun _ w => ⌜w.options = o⌝⟩⦄

section Steps

variable {n : Nat} (ih : OptionsKept n) (o : Nat → List Plugin × Bool × Bool)
include ih

theorem instantiate_options (c : Component) (name : String) (props : Props) (caps : Nat) :
    ⦃fun w => ⌜w.options = o⌝⦄ instantiate (n + 1) c name props caps
    ⦃post⟨fun _ w => ⌜w.options = o⌝, fun _ w => ⌜w.options = o⌝⟩⦄ := by
  rw [instantiate.eq_def]
  dsimp only
  cases c
  case demo d =>
    -- The demo components only call capabilities, none of which reaches a renderer.
    cases d <;> mvcgen [typedCap_options, callState_options, callLog_options, callOn_options, callTimer_options,
      callClear_options] with grind [World.restore]
  case script s =>
    -- A script's setup runs its actions, which may reach the whole engine through emits and triggers.
    have setup := ih.actions
    mvcgen [spend_options, mark_options, newInstance_options, typedCap_options, callState_options,
      modifyInst_options, setup, fail] with grind [World.restore]

theorem renderString_options (r : Nat) (v : Value) :
    ⦃fun w => ⌜w.options = o⌝⦄ renderString (n + 1) r v
    ⦃post⟨fun _ w => ⌜w.options = o⌝, fun _ w => ⌜w.options = o⌝⟩⦄ := by
  rw [renderString.eq_def]
  dsimp only
  have setup := ih.instantiate
  have render := callRender_options (n := n)
  have inner := ih.renderString
  have all := ih.renderAll
  mvcgen [textOf_options, renderer_options, compose_options, setup, count_options, render, inner, all,
    attrMarkup_options, fail] with grind [World.restore]

theorem renderAll_options (r : Nat) (vs : List Value) :
    ⦃fun w => ⌜w.options = o⌝⦄ renderAll (n + 1) r vs
    ⦃post⟨fun _ w => ⌜w.options = o⌝, fun _ w => ⌜w.options = o⌝⟩⦄ := by
  have first := ih.renderString
  have others := ih.renderAll
  cases vs <;> rw [renderAll.eq_def] <;> mvcgen [first, others] with grind [World.restore]

theorem mount_options (r : Nat) (v : Value) (container : Nat) (owner : Option Nat) :
    ⦃fun w => ⌜w.options = o⌝⦄ mount (n + 1) r v container owner
    ⦃post⟨fun _ w => ⌜w.options = o⌝, fun _ w => ⌜w.options = o⌝⟩⦄ := by
  rw [mount.eq_def]
  dsimp only
  have setup := ih.instantiate
  have phase := ih.renderPhase
  mvcgen [reserve_options, compose_options, renderer_options, setup, count_options, register_options, phase,
    fail] with grind [World.restore]

theorem renderPhase_options (r id : Nat) (first : Bool) :
    ⦃fun w => ⌜w.options = o⌝⦄ renderPhase (n + 1) r id first
    ⦃post⟨fun _ w => ⌜w.options = o⌝, fun _ w => ⌜w.options = o⌝⟩⦄ := by
  rw [renderPhase.eq_def]
  dsimp only
  have render := callRender_options (n := n)
  have children := ih.mountChildren
  have inner := ih.mount
  mvcgen [modifyPoint_options, andFinally, point?_options, render, count_options, children, inner,
    hostElement_options, applyProps_options, fail] with grind [World.restore]

theorem mountChildren_options (r : Nat) (cs : List Value) (into owner : Nat) :
    ⦃fun w => ⌜w.options = o⌝⦄ mountChildren (n + 1) r cs into owner
    ⦃post⟨fun _ w => ⌜w.options = o⌝, fun _ w => ⌜w.options = o⌝⟩⦄ := by
  have inner := ih.mount
  have others := ih.mountChildren
  cases cs <;> rw [mountChildren.eq_def] <;> mvcgen [inner, modifyDoc_options, others] with grind [World.restore]

theorem update_options (r id : Nat) :
    ⦃fun w => ⌜w.options = o⌝⦄ update (n + 1) r id
    ⦃post⟨fun _ w => ⌜w.options = o⌝, fun _ w => ⌜w.options = o⌝⟩⦄ := by
  rw [update.eq_def]
  dsimp only
  have phase := ih.renderPhase
  mvcgen [recover, phase] with grind [World.restore]

theorem fire_options (target : TriggerTarget) :
    ⦃fun w => ⌜w.options = o⌝⦄ fire (n + 1) target
    ⦃post⟨fun _ w => ⌜w.options = o⌝, fun _ w => ⌜w.options = o⌝⟩⦄ := by
  rw [fire.eq_def]
  dsimp only
  have again := ih.update
  mvcgen [point?_options, again] with grind [World.restore]

theorem dispatch_options (ev : Event) :
    ⦃fun w => ⌜w.options = o⌝⦄ dispatch (n + 1) ev
    ⦃post⟨fun _ w => ⌜w.options = o⌝, fun _ w => ⌜w.options = o⌝⟩⦄ := by
  rw [dispatch.eq_def]
  dsimp only
  have each := ih.listen
  -- Listeners run one after another, each from the world the one before left, failed or not.
  mvcgen [attempt, each] invariants
  · post⟨fun _ w => ⌜w.options = o⌝, fun _ w => ⌜w.options = o⌝⟩
  with grind [World.restore]

theorem listen_options (l : Listener) (ev : Event) :
    ⦃fun w => ⌜w.options = o⌝⦄ listen (n + 1) l ev
    ⦃post⟨fun _ w => ⌜w.options = o⌝, fun _ w => ⌜w.options = o⌝⟩⦄ := by
  rw [listen.eq_def]
  dsimp only
  have handler := ih.callHandler
  have again := ih.update
  cases l <;> mvcgen [note_options, fail, recover, count_options, handler, point?_options, again] with grind [World.restore]

theorem callHandler_options (h : Routine) (ev : Option Event) :
    ⦃fun w => ⌜w.options = o⌝⦄ callHandler (n + 1) h ev
    ⦃post⟨fun _ w => ⌜w.options = o⌝, fun _ w => ⌜w.options = o⌝⟩⦄ := by
  rw [callHandler.eq_def]
  dsimp only
  have body := ih.actions
  cases h <;> mvcgen [spend_options, mark_options, body, stateRecord_options, setState_options, typedCap_options,
    callLog_options] with grind [World.restore]

theorem actions_options (owner : Option Nat) (acts : List Action) :
    ⦃fun w => ⌜w.options = o⌝⦄ actions (n + 1) owner acts
    ⦃post⟨fun _ w => ⌜w.options = o⌝, fun _ w => ⌜w.options = o⌝⟩⦄ := by
  have first := ih.action
  have others := ih.actions
  cases acts <;> rw [actions.eq_def] <;> mvcgen [spend_options, mark_options, first, others] with grind [World.restore]

theorem action_options (i : Nat) (act : Action) :
    ⦃fun w => ⌜w.options = o⌝⦄ action (n + 1) i act
    ⦃post⟨fun _ w => ⌜w.options = o⌝, fun _ w => ⌜w.options = o⌝⟩⦄ := by
  rw [action.eq_def]
  dsimp only
  have emit := ih.callEmit
  have trigger := ih.triggerInstance
  have check := ih.checkCap
  cases act <;> mvcgen [inst_options, actionContext_options, setState_options, mark_options, stateRecord_options,
    typedCap_options, callLog_options, emit, callOn_options, modifyInst_options, dispose_options, trigger, check,
    capset_options, note_options] with grind [World.restore]

theorem triggerInstance_options (i : Nat) :
    ⦃fun w => ⌜w.options = o⌝⦄ triggerInstance (n + 1) i
    ⦃post⟨fun _ w => ⌜w.options = o⌝, fun _ w => ⌜w.options = o⌝⟩⦄ := by
  rw [triggerInstance.eq_def]
  dsimp only
  have again := ih.fire
  mvcgen [inst_options, capset_options, mark_options, attempt, again, note_options] with grind [World.restore]

theorem checkCap_options (caps : Nat) (name : String) :
    ⦃fun w => ⌜w.options = o⌝⦄ checkCap (n + 1) caps name
    ⦃post⟨fun _ w => ⌜w.options = o⌝, fun _ w => ⌜w.options = o⌝⟩⦄ := by
  rw [checkCap.eq_def]
  dsimp only
  have emit := ih.callEmit
  split <;> mvcgen [typedCap_options, mark_options, callState_options, note_options, stateRecord_options,
    callLog_options, callTimer_options, callClear_options, emit, callOn_options, dispose_options,
    capset_options] with grind [World.restore]

theorem callEmit_options (f : Value) (topic : String) (data : Value) :
    ⦃fun w => ⌜w.options = o⌝⦄ callEmit (n + 1) f topic data
    ⦃post⟨fun _ w => ⌜w.options = o⌝, fun _ w => ⌜w.options = o⌝⟩⦄ := by
  rw [callEmit.eq_def]
  dsimp only
  have bus := ih.emitOnBus
  mvcgen [bus, note_options] with grind [World.restore]

theorem emitOnBus_options (topic : String) (data : Value) :
    ⦃fun w => ⌜w.options = o⌝⦄ emitOnBus (n + 1) topic data
    ⦃post⟨fun _ w => ⌜w.options = o⌝, fun _ w => ⌜w.options = o⌝⟩⦄ := by
  rw [emitOnBus.eq_def]
  dsimp only
  have each := ih.deliver
  mvcgen [spend_options, each] invariants
  · post⟨fun _ w => ⌜w.options = o⌝, fun _ w => ⌜w.options = o⌝⟩
  with grind [World.restore]

theorem deliver_options (s : Subscriber) (topic : String) (data : Value) :
    ⦃fun w => ⌜w.options = o⌝⦄ deliver (n + 1) s topic data
    ⦃post⟨fun _ w => ⌜w.options = o⌝, fun _ w => ⌜w.options = o⌝⟩⦄ := by
  rw [deliver.eq_def]
  dsimp only
  have steps := ih.busActs
  have trigger := ih.triggerInstance
  cases s <;> mvcgen [note_options, steps, setState_options, inst_options, trigger] with grind [World.restore]

theorem busActs_options (acts : List BusAct) :
    ⦃fun w => ⌜w.options = o⌝⦄ busActs (n + 1) acts
    ⦃post⟨fun _ w => ⌜w.options = o⌝, fun _ w => ⌜w.options = o⌝⟩⦄ := by
  have bus := ih.emitOnBus
  have others := ih.busActs
  cases acts <;> rw [busActs.eq_def] <;> mvcgen [dispose_options, callOn_options, mark_options, bus, others] with grind [World.restore]

end Steps

/-- Out of fuel, every engine function stops at once. -/
theorem OptionsKept.zero : OptionsKept 0 where
  instantiate _ _ _ _ _ := by rw [instantiate.eq_def]; mvcgen
  callRender o := callRender_options o 0
  renderString _ _ _ := by rw [renderString.eq_def]; mvcgen
  renderAll _ _ _ := by rw [renderAll.eq_def]; mvcgen
  mount _ _ _ _ _ := by rw [mount.eq_def]; mvcgen
  renderPhase _ _ _ _ := by rw [renderPhase.eq_def]; mvcgen
  mountChildren _ _ _ _ _ := by rw [mountChildren.eq_def]; mvcgen
  update _ _ _ := by rw [update.eq_def]; mvcgen
  fire _ _ := by rw [fire.eq_def]; mvcgen
  dispatch _ _ := by rw [dispatch.eq_def]; mvcgen
  listen _ _ _ := by rw [listen.eq_def]; mvcgen
  callHandler _ _ _ := by rw [callHandler.eq_def]; mvcgen
  actions _ _ _ := by rw [actions.eq_def]; mvcgen
  action _ _ _ := by rw [action.eq_def]; mvcgen
  triggerInstance _ _ := by rw [triggerInstance.eq_def]; mvcgen
  checkCap _ _ _ := by rw [checkCap.eq_def]; mvcgen
  callEmit _ _ _ _ := by rw [callEmit.eq_def]; mvcgen
  emitOnBus _ _ _ := by rw [emitOnBus.eq_def]; mvcgen
  deliver _ _ _ _ := by rw [deliver.eq_def]; mvcgen
  busActs _ _ := by rw [busActs.eq_def]; mvcgen

theorem OptionsKept.succ {n : Nat} (ih : OptionsKept n) : OptionsKept (n + 1) :=
  ⟨instantiate_options ih, fun o => callRender_options o (n + 1), renderString_options ih, renderAll_options ih,
    mount_options ih, renderPhase_options ih, mountChildren_options ih, update_options ih, fire_options ih,
    dispatch_options ih, listen_options ih, callHandler_options ih, actions_options ih, action_options ih,
    triggerInstance_options ih, checkCap_options ih, callEmit_options ih, emitOnBus_options ih, deliver_options ih,
    busActs_options ih⟩

/-- At every fuel, every engine function keeps the options of every renderer. -/
theorem optionsKept : ∀ n, OptionsKept n
  | 0 => .zero
  | n + 1 => (optionsKept n).succ

/-- A computation that keeps a property of the world, whether it finishes or stops, leaves a world
with the property. -/
theorem leaves_of_triple {α : Type} {m : Run α} {P : World → Prop}
    (h : ⦃fun w => ⌜P w⌝⦄ m ⦃post⟨fun _ w => ⌜P w⌝, fun _ w => ⌜P w⌝⟩⦄) {w : World} (hw : P w) :
    P (m.leaves w) := by
  have kept := h w hw
  simp only [wp, PredTrans.apply] at kept
  unfold Run.leaves
  split <;> simp_all

/-- A computation specified to keep the options leaves them as it found them, whether it finishes or
stops. -/
theorem options_leaves {α : Type} {m : Run α}
    (h : ∀ o, ⦃fun w => ⌜w.options = o⌝⦄ m ⦃post⟨fun _ w => ⌜w.options = o⌝, fun _ w => ⌜w.options = o⌝⟩⦄)
    (w : World) : (m.leaves w).options = w.options :=
  leaves_of_triple (P := fun w' => w'.options = w.options) (h w.options) rfl

end Run

end ViewEngine
