import Mathlib
import ViewEngine.Proofs.Engine.Calls
import ViewEngine.Proofs.Engine.Retouch

/-! Failed capability checks and where they stop. A typed accessor that finds its capability
missing, or holding a value whose type is neither its own nor convertible to it, stops the run
naming the capability and the value it found. The handlers inside the engine let that stop pass
unchanged; only the entry points (mounting, rendering to markup, an element's listener and a
re-render) catch it, each returning it as a failure and passing every other stop as it came.
However a render phase ends, its mount point is no longer marked as rendering, so later triggers
render it again. -/

namespace ViewEngine

open Std.Do

set_option mvcgen.warning false

/-- A stop that is not a failed capability check. -/
def Abort.NotCapability (e : Abort) : Prop := ∀ f, e ≠ .capability f

namespace Run

section Handlers

variable {α : Type}

@[simp] theorem get_run (w : World) : (get : Run World).run w = .ok w w := rfl

@[simp] theorem pure_run (a : α) (w : World) : (pure a : Run α).run w = .ok a w := rfl

/-- Running `x` and then `g` on its result. -/
theorem bind_run {β : Type} (x : Run α) (g : α → Run β) (w : World) :
    (x >>= g).run w = match x.run w with
      | .ok a w' => (g a).run w'
      | .error e w' => .error e w' := by
  simp only [EStateM.run, bind, EStateM.bind]
  cases x w <;> rfl

/-- Recovering turns a capability stop into a returned failure and passes every other outcome. -/
theorem recover_run (body : Run α) (w : World) :
    (recover body).run w = match body.run w with
      | .error (.capability f) w' => .error (.fail f) w'
      | other => other := by
  simp only [recover, EStateM.run]
  show EStateM.tryCatch body _ w = _
  simp only [EStateM.tryCatch]
  -- The handler sees the world the body stopped in, and rethrows all but a capability stop.
  rcases body w with ⟨a, w'⟩ | ⟨e, w'⟩
  · rfl
  · cases e <;> rfl

/-- Attempting turns a returned failure into a value and passes every other stop, a capability
stop included. -/
theorem attempt_run (body : Run α) (w : World) :
    (attempt body).run w = match body.run w with
      | .ok a w' => .ok (.ok a) w'
      | .error (.fail f) w' => .ok (.error f) w'
      | .error e w' => .error e w' := by
  simp only [attempt, EStateM.run]
  show EStateM.tryCatch _ _ w = _
  simp only [EStateM.tryCatch]
  rcases h : body w with ⟨a, w'⟩ | ⟨e, w'⟩
  · simp [bind, EStateM.bind, h, pure, EStateM.pure]
  · cases e <;> simp [bind, EStateM.bind, h, pure, EStateM.pure, throw, throwThe, MonadExceptOf.throw,
      EStateM.throw] <;> rfl

/-- A final step that only changes the world runs after the body whether it finished or stopped,
and the outcome is the body's. -/
theorem andFinally_run (body : Run α) {last : Run Unit} {g : World → World}
    (step : ∀ w, last.run w = .ok () (g w)) (w : World) :
    (andFinally body last).run w = match body.run w with
      | .ok a w' => .ok a (g w')
      | .error e w' => .error e (g w') := by
  simp only [andFinally, EStateM.run]
  show EStateM.tryCatch _ _ w = _
  simp only [EStateM.tryCatch]
  have step' : ∀ w, last w = .ok () (g w) := step
  rcases h : body w with ⟨a, w'⟩ | ⟨e, w'⟩
  · simp [bind, EStateM.bind, h, step', pure, EStateM.pure]
  · simp [bind, EStateM.bind, h, step', throw, throwThe, MonadExceptOf.throw, EStateM.throw]
    rfl

end Handlers

/-- A computation that never stops at a capability check: every failed check inside it has become
a returned failure. -/
def Sealed {α : Type} (m : Run α) : Prop := ∀ w f w', m.run w ≠ .error (.capability f) w'

/-- A computation is sealed when its stops, proved of every run, are never capability stops. -/
theorem sealed_of_triple {α : Type} {m : Run α}
    (h : ⦃fun _ => ⌜True⌝⦄ m ⦃post⟨fun _ _ => ⌜True⌝, fun e _ => ⌜e.NotCapability⌝⟩⦄) : m.Sealed := by
  intro w f w' run
  have stops := h w trivial
  simp only [wp, PredTrans.apply] at stops
  rw [run] at stops
  exact stops f rfl

theorem recover_spec {α : Type} (body : Run α) :
    ⦃fun _ => ⌜True⌝⦄ recover body ⦃post⟨fun _ _ => ⌜True⌝, fun e _ => ⌜e.NotCapability⌝⟩⦄ := by
  intro w _
  simp only [wp, PredTrans.apply]
  rw [recover_run]
  rcases body.run w with ⟨a, w'⟩ | ⟨e, w'⟩
  · trivial
  · cases e <;> simp [Abort.NotCapability]

theorem attempt_spec {α : Type} (body : Run α)
    (h : ⦃fun _ => ⌜True⌝⦄ body ⦃post⟨fun _ _ => ⌜True⌝, fun e _ => ⌜e.NotCapability⌝⟩⦄) :
    ⦃fun _ => ⌜True⌝⦄ attempt body ⦃post⟨fun _ _ => ⌜True⌝, fun e _ => ⌜e.NotCapability⌝⟩⦄ := by
  mvcgen [attempt, h]

theorem update_spec (n r id : Nat) :
    ⦃fun _ => ⌜True⌝⦄ update n r id ⦃post⟨fun _ _ => ⌜True⌝, fun e _ => ⌜e.NotCapability⌝⟩⦄ := by
  rw [update.eq_def]
  split
  · mvcgen
    simp [Abort.NotCapability]
  · exact recover_spec _

theorem fire_spec (n : Nat) (target : TriggerTarget) :
    ⦃fun _ => ⌜True⌝⦄ fire n target ⦃post⟨fun _ _ => ⌜True⌝, fun e _ => ⌜e.NotCapability⌝⟩⦄ := by
  rw [fire.eq_def]
  split
  · mvcgen
    simp [Abort.NotCapability]
  · mvcgen [point?, renderer, update_spec]

theorem listen_spec (n : Nat) (l : Listener) (ev : Event) :
    ⦃fun _ => ⌜True⌝⦄ listen n l ev ⦃post⟨fun _ _ => ⌜True⌝, fun e _ => ⌜e.NotCapability⌝⟩⦄ := by
  rw [listen.eq_def]
  split
  · mvcgen
    simp [Abort.NotCapability]
  · split
    · -- A recording listener can only return its failure.
      mvcgen [note, fail]
      simp [Abort.NotCapability]
    · exact recover_spec _

theorem dispatch_spec (n : Nat) (ev : Event) :
    ⦃fun _ => ⌜True⌝⦄ dispatch n ev ⦃post⟨fun _ _ => ⌜True⌝, fun e _ => ⌜e.NotCapability⌝⟩⦄ := by
  rw [dispatch.eq_def]
  split
  · mvcgen
    simp [Abort.NotCapability]
  · -- Each listener runs under an attempt, so the loop passes on only the stops it lets through.
    rename_i n
    have each := fun l => attempt_spec _ (listen_spec n l ev)
    mvcgen [each] invariants
    · post⟨fun _ _ => ⌜True⌝, fun e _ => ⌜e.NotCapability⌝⟩
    all_goals exact fun _ h => h

/-! The four entry points never stop at a capability check. -/

theorem mountInto_sealed (r : Nat) (v : Value) (container : Nat) : (mountInto r v container).Sealed :=
  sealed_of_triple (by mvcgen [mountInto, attempt_spec, recover_spec])

theorem renderToString_sealed (r : Nat) (v : Value) : (renderToString r v).Sealed :=
  sealed_of_triple (attempt_spec _ (recover_spec _))

theorem dispatchOn_sealed (target : Nat) (type : String) (detail : Value) :
    (dispatchOn target type detail).Sealed :=
  sealed_of_triple (dispatch_spec _ _)

theorem fireTrigger_sealed (target : TriggerTarget) : (fireTrigger target).Sealed :=
  sealed_of_triple (by mvcgen [fireTrigger, attempt_spec, fire_spec])

/-! Each entry point returns the capability failure its body stopped at. -/

theorem mountInto_run_of_capability {r : Nat} {v : Value} {container : Nat} {w w' : World} {f : Failure}
    (stop : (mount mountAllowance r v container none).run w = .error (.capability f) w') :
    (mountInto r v container).run w = .ok (some f) w' := by
  show (attempt (recover (mount mountAllowance r v container none)) >>= _).run w = _
  rw [bind_run, attempt_run, recover_run, stop]
  rfl

theorem renderToString_run_of_capability {r : Nat} {v : Value} {w w' : World} {f : Failure}
    (stop : (renderString depthAllowance r v).run w = .error (.capability f) w') :
    (renderToString r v).run w = .ok (.error f) w' := by
  rw [renderToString, attempt_run, recover_run, stop]

theorem update_run_of_capability {n r id : Nat} {w w' : World} {f : Failure}
    (stop : (renderPhase n r id false).run w = .error (.capability f) w') :
    (update (n + 1) r id).run w = .error (.fail f) w' := by
  rw [update, recover_run, stop]

/-- A typed accessor reads the capability set and stops at once when the value does not fit. -/
theorem typedCap_run (caps : Nat) (name : String) (t : CapType) (w : World) :
    (typedCap caps name t).run w = match (w.capsets.getD caps default).typed name t with
      | .ok v => .ok v w
      | .error f => .error (.capability f) w := by
  simp only [typedCap, capset, bind_run, get_run, pure_run]
  cases (w.capsets.getD caps default).typed name t <;> rfl

/-- Counting an event changes only the event counter of the renderer. -/
theorem count_run (r : Nat) (f : Metrics → Metrics) (w : World) :
    (count r f).run w =
      .ok () { w with renderers := w.renderers.modify r (fun rd => { rd with metrics := rd.metrics.map f }) } :=
  rfl

/-- A listener whose handler stops at a capability check returns that failure. -/
theorem listen_run_of_capability {n r id : Nat} {h : Routine} {ev : Event} {w w' : World} {f : Failure}
    (stop : (callHandler n h (some ev)).run
      ((count r (fun m => { m with events := m.events.bump ev.type })).leaves w) = .error (.capability f) w') :
    (listen (n + 1) (.mounted r id h) ev).run w = .error (.fail f) w' := by
  rw [listen, recover_run, bind_run, count_run]
  dsimp only
  rw [bind_run]
  simp only [Run.leaves, count_run] at stop
  rw [stop]

/-! A render phase, however it ends, leaves its mount point marked as not rendering. -/

/-- Changing the mount points of one number changes exactly those among the renderer's. -/
theorem points_modifyPoint (r id : Nat) (f : MountPoint → MountPoint) (w : World) :
    ((modifyPoint r id f).leaves w).points r = (w.points r).map (fun p => if p.id == id then f p else p) := by
  simp only [Run.leaves, modifyPoint, modifyRenderer]
  show (World.points { w with renderers := _ } r) = _
  simp only [World.points, Array.getD_modify]
  split
  · rfl
  · -- Past the renderers stands the default one, which has no mount points.
    rename_i outside
    have none : ¬ r < w.renderers.size := by simpa using outside
    simp [Array.getD_eq_getD_getElem?, Array.getElem?_eq_none (Nat.le_of_not_lt none), Renderer.default]

theorem modifyPoint_run (r id : Nat) (f : MountPoint → MountPoint) (w : World) :
    (modifyPoint r id f).run w = .ok () ((modifyPoint r id f).leaves w) := rfl

/-- After a step that finished, a computation leaves what its continuation leaves. -/
theorem leaves_bind_ok {α β : Type} {x : Run α} {w w₁ : World} {a : α} (ok : x.run w = .ok a w₁)
    (g : α → Run β) : (x >>= g).leaves w = (g a).leaves w₁ := by
  simp only [Run.leaves, bind_run, ok]

/-- A final step that only changes the world is applied to whatever its body leaves. -/
theorem andFinally_leaves {α : Type} (body : Run α) {last : Run Unit} {g : World → World}
    (step : ∀ w, last.run w = .ok () (g w)) (w : World) :
    (andFinally body last).leaves w = g (body.leaves w) := by
  simp only [Run.leaves, andFinally_run body step]
  cases body.run w <;> rfl

/-- However a render phase ends, no mount point of its number is left marked as rendering. -/
theorem renderPhase_leaves_idle (n r id : Nat) (first : Bool) (w : World) :
    ∀ p ∈ ((renderPhase (n + 1) r id first).leaves w).points r, p.id = id → p.rendering = false := by
  -- The phase ends by clearing the flag, in the world where its body finished or stopped.
  have reset : ∃ w₁, (renderPhase (n + 1) r id first).leaves w =
      (modifyPoint r id (fun p => { p with rendering := false })).leaves w₁ := by
    rw [renderPhase, leaves_bind_ok (modifyPoint_run r id _ w),
      andFinally_leaves _ (modifyPoint_run r id _)]
    exact ⟨_, rfl⟩
  obtain ⟨w₁, leaves⟩ := reset
  intro p mem same
  rw [leaves, points_modifyPoint] at mem
  obtain ⟨q, -, rfl⟩ := List.mem_map.1 mem
  by_cases hq : q.id = id
  · simp [hq]
  · simp [hq] at same

/-- A trigger re-renders its mount point when it is there and not rendering. -/
theorem fire_run (n r id : Nat) (w : World) :
    (fire (n + 1) (.mountPoint r id)).run w =
      match (w.points r).find? (fun p => p.id == id) with
      | none => .ok () w
      | some p => if p.rendering then .ok () w else (update n r id).run w := by
  rw [fire]
  simp only [point?, renderer, bind_run, get_run, pure_run, World.points]
  cases (w.renderers.getD r Renderer.default).points.find? (fun p => p.id == id) with
  | none => rfl
  | some p => by_cases rendering : p.rendering = true <;> simp [rendering]

/-- A typed accessor finds the capability of its name when the value has the accessor's type or
converts to it; otherwise it stops naming the capability and the value it found, the absent value
when the name is missing. -/
theorem typedCap_run_lookup (w : World) (caps : Nat) (name : String) (t : CapType) :
    (typedCap caps name t).run w =
      match (w.capsets.getD caps default).lookup? name with
      | none => .error (.capability (.capability name .null)) w
      | some v => if t.accepts v then .ok v w else .error (.capability (.capability name v)) w := by
  rw [typedCap_run]
  simp only [CapSet.typed]
  cases (w.capsets.getD caps default).lookup? name with
  | none => rfl
  | some v =>
    by_cases fits : t.accepts v = true <;> simp [fits]

/-- Recovering passes every stop but a capability stop as it came. -/
theorem recover_run_of_passing {α : Type} (body : Run α) (w w' : World) (e : Abort)
    (passing : e.NotCapability) (stop : body.run w = .error e w') :
    (recover body).run w = .error e w' := by
  rw [recover_run, stop]
  cases e with
  | capability f => exact absurd rfl (passing f)
  | fail f => rfl
  | exhausted => rfl

/-- Attempting passes a capability stop on to what runs around it. -/
theorem attempt_run_of_capability {α : Type} (body : Run α) (w w' : World) (f : Failure)
    (stop : body.run w = .error (.capability f) w') :
    (attempt body).run w = .error (.capability f) w' := by
  rw [attempt_run, stop]

/-- A final step passes a capability stop on, after running. -/
theorem andFinally_run_of_capability {α : Type} (body : Run α) (last : Run Unit) (g : World → World)
    (step : ∀ w, last.run w = .ok () (g w)) (w w' : World) (f : Failure)
    (stop : body.run w = .error (.capability f) w') :
    (andFinally body last).run w = .error (.capability f) (g w') := by
  rw [andFinally_run body step, stop]

/-- After a render phase, however it ended, a trigger of its mount point, if still there, renders
it again. -/
theorem fire_after_renderPhase (n m r id : Nat) (first : Bool) (w : World) :
    let w' := (renderPhase (n + 1) r id first).leaves w
    ((w'.points r).find? (fun p => p.id == id)).isSome →
      (fire (m + 1) (.mountPoint r id)).run w' = (update m r id).run w' := by
  intro w' present
  -- The phase left its mount point idle, so the trigger's guard lets the re-render through.
  rw [fire_run]
  obtain ⟨p, found⟩ := Option.isSome_iff_exists.1 present
  have same : p.id = id := by simpa using List.find?_some found
  have idle := renderPhase_leaves_idle n r id first w p (List.mem_of_find?_eq_some found) same
  simp [found, idle]

end Run

/-- Capability failures become errors. A typed accessor finds the capability of its name when the
value has the accessor's type or converts to it, and otherwise stops naming the capability and the
value it found (the absent value when the name is missing). No entry point (mounting, rendering to markup, dispatching to
listeners, calling a trigger) stops at a capability check: mounting and rendering return the
failure their body stopped at, a re-render and a listener fail with it, and recovering passes every
other stop unchanged, while attempting and final steps pass capability stops through to the entry
point around them. However a render phase ends, its mount point is left not rendering, so a later trigger renders
it again. -/
theorem capability_failures_become_errors :
    (∀ (w : World) (caps : Nat) (name : String) (t : CapType),
      (Run.typedCap caps name t).run w =
        match (w.capsets.getD caps default).lookup? name with
        | none => .error (.capability (.capability name .null)) w
        | some v => if t.accepts v then .ok v w else .error (.capability (.capability name v)) w) ∧
    (∀ r v container, (Run.mountInto r v container).Sealed) ∧
    (∀ r v, (Run.renderToString r v).Sealed) ∧
    (∀ target type detail, (Run.dispatchOn target type detail).Sealed) ∧
    (∀ target, (Run.fireTrigger target).Sealed) ∧
    (∀ r v container (w w' : World) f,
      (Run.mount Run.mountAllowance r v container none).run w = .error (.capability f) w' →
        (Run.mountInto r v container).run w = .ok (some f) w') ∧
    (∀ r v (w w' : World) f, (Run.renderString Run.depthAllowance r v).run w = .error (.capability f) w' →
        (Run.renderToString r v).run w = .ok (.error f) w') ∧
    (∀ n r id (w w' : World) f, (Run.renderPhase n r id false).run w = .error (.capability f) w' →
        (Run.update (n + 1) r id).run w = .error (.fail f) w') ∧
    (∀ n r id h (ev : Event) (w w' : World) f,
      (Run.callHandler n h (some ev)).run
        ((Run.count r (fun m => { m with events := m.events.bump ev.type })).leaves w) =
          .error (.capability f) w' →
        (Run.listen (n + 1) (.mounted r id h) ev).run w = .error (.fail f) w') ∧
    (∀ {α : Type} (body : Run α) (w w' : World) (e : Abort), e.NotCapability →
      body.run w = .error e w' → (Run.recover body).run w = .error e w') ∧
    (∀ {α : Type} (body : Run α) (w w' : World) f, body.run w = .error (.capability f) w' →
      (Run.attempt body).run w = .error (.capability f) w') ∧
    (∀ {α : Type} (body : Run α) (last : Run Unit) (g : World → World),
      (∀ w, last.run w = .ok () (g w)) → ∀ (w w' : World) f, body.run w = .error (.capability f) w' →
        (Run.andFinally body last).run w = .error (.capability f) (g w')) ∧
    (∀ n r id first (w : World), ∀ p ∈ ((Run.renderPhase (n + 1) r id first).leaves w).points r,
      p.id = id → p.rendering = false) ∧
    (∀ n m r id first (w : World),
      let w' := (Run.renderPhase (n + 1) r id first).leaves w
      ((w'.points r).find? (fun p => p.id == id)).isSome →
        (Run.fire (m + 1) (.mountPoint r id)).run w' = (Run.update m r id).run w') := by
  exact ⟨Run.typedCap_run_lookup, Run.mountInto_sealed, Run.renderToString_sealed, Run.dispatchOn_sealed,
    Run.fireTrigger_sealed, fun _ _ _ _ _ _ => Run.mountInto_run_of_capability,
    fun _ _ _ _ _ => Run.renderToString_run_of_capability, fun _ _ _ _ _ _ => Run.update_run_of_capability,
    fun _ _ _ _ _ _ _ _ => Run.listen_run_of_capability, Run.recover_run_of_passing,
    Run.attempt_run_of_capability, Run.andFinally_run_of_capability, Run.renderPhase_leaves_idle,
    Run.fire_after_renderPhase⟩

end ViewEngine
