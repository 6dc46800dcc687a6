import ViewEngine.Proofs.Engine.Recovery

/-! A larger depth allowance keeps every outcome that did not run out. Each engine function takes a
depth allowance that every nested call lowers by one, and stops as exhausted once it is spent. Given
one more level, every engine function ends exactly as before, with the same result or stop and the
same world, wherever it did not run out: the extra level only reaches recursive calls, and each of
those ends as before by the same argument one level down. So an outcome reached within some depth
is the outcome at every larger depth. -/

namespace ViewEngine

namespace Run

/-- `y` extends `x`: started in any world, `x` runs out, or `y` ends exactly as `x` does. -/
def Extends {α : Type} (x y : Run α) : Prop :=
  ∀ w, (∃ w', x.run w = .error .exhausted w') ∨ y.run w = x.run w

section Extends

variable {α β : Type}

@[refl] theorem Extends.refl (x : Run α) : Extends x x := fun _ => Or.inr rfl

theorem Extends.trans {x y z : Run α} (xy : Extends x y) (yz : Extends y z) : Extends x z := by
  intro w
  rcases xy w with stop | same
  · exact Or.inl stop
  · rcases yz w with ⟨w', stop⟩ | same'
    · exact Or.inl ⟨w', same ▸ stop⟩
    · exact Or.inr (same'.trans same)

/-- Running out at once is extended by anything. -/
theorem Extends.exhausted (y : Run α) : Extends (throw .exhausted) y := fun w => Or.inl ⟨w, rfl⟩

/-- Extension passes through sequencing: the continuation only runs where the first step did not
run out, and there both sides continue from the same result and world. -/
@[gcongr] theorem Extends.bind {x x' : Run α} {f f' : α → Run β}
    (hx : Extends x x') (hf : ∀ a, Extends (f a) (f' a)) : Extends (x >>= f) (x' >>= f') := by
  intro w
  rcases hx w with ⟨w', stop⟩ | same
  · exact Or.inl ⟨w', by rw [bind_run, stop]⟩
  · rw [bind_run, bind_run, same]
    cases x.run w with
    | ok a w₁ => exact hf a w₁
    | error e w₁ => exact Or.inr rfl

@[gcongr] theorem Extends.ite {c : Prop} [Decidable c] {x x' y y' : Run α}
    (hx : Extends x x') (hy : Extends y y') : Extends (if c then x else y) (if c then x' else y') := by
  by_cases h : c
  · simpa [h] using hx
  · simpa [h] using hy

/-- The handlers pass an exhausted stop on as it came, so they keep extension. -/
@[gcongr] theorem Extends.recover {x x' : Run α} (hx : Extends x x') : Extends (recover x) (recover x') := by
  intro w
  rcases hx w with ⟨w', stop⟩ | same
  · exact Or.inl ⟨w', by rw [recover_run, stop]⟩
  · exact Or.inr (by rw [recover_run, recover_run, same])

@[gcongr] theorem Extends.attempt {x x' : Run α} (hx : Extends x x') : Extends (attempt x) (attempt x') := by
  intro w
  rcases hx w with ⟨w', stop⟩ | same
  · exact Or.inl ⟨w', by rw [attempt_run, stop]⟩
  · exact Or.inr (by rw [attempt_run, attempt_run, same])

@[gcongr] theorem Extends.andFinally {x x' : Run α} (r id : Nat) (f : MountPoint → MountPoint)
    (hx : Extends x x') : Extends (andFinally x (modifyPoint r id f)) (andFinally x' (modifyPoint r id f)) := by
  have last := modifyPoint_run r id f
  intro w
  rcases hx w with ⟨w', stop⟩ | same
  · exact Or.inl ⟨_, by rw [andFinally_run _ last, stop]⟩
  · exact Or.inr (by rw [andFinally_run _ last, andFinally_run _ last, same])

/-- A loop whose body extends another's extends it: the loops run the same items from the same
state until the first one runs out. -/
@[gcongr] theorem Extends.forIn {γ : Type} (xs : List γ) (b : β) {f f' : γ → β → Run (ForInStep β)}
    (hf : ∀ a c, Extends (f a c) (f' a c)) : Extends (forIn xs b f) (forIn xs b f') := by
  induction xs generalizing b with
  | nil => rfl
  | cons a rest ih =>
    simp only [List.forIn_cons]
    refine Extends.bind (hf a b) fun step => ?_
    cases step with
    | done c => rfl
    | yield c => exact ih c

end Extends

/-- Every engine function, given one level more than `n`, extends what it does within `n`. -/
structure Deepens (n : Nat) : Prop where
  instantiate : ∀ c name props caps,
    Extends (instantiate n c name props caps) (instantiate (n + 1) c name props caps)
  callRender : ∀ fn props children,
    Extends (callRender n fn props children) (callRender (n + 1) fn props children)
  renderString : ∀ r v, Extends (renderString n r v) (renderString (n + 1) r v)
  renderAll : ∀ r vs, Extends (renderAll n r vs) (renderAll (n + 1) r vs)
  mount : ∀ r v container owner, Extends (mount n r v container owner) (mount (n + 1) r v container owner)
  renderPhase : ∀ r id first, Extends (renderPhase n r id first) (renderPhase (n + 1) r id first)
  mountChildren : ∀ r cs into owner,
    Extends (mountChildren n r cs into owner) (mountChildren (n + 1) r cs into owner)
  update : ∀ r id, Extends (update n r id) (update (n + 1) r id)
  fire : ∀ target, Extends (fire n target) (fire (n + 1) target)
  dispatch : ∀ ev, Extends (dispatch n ev) (dispatch (n + 1) ev)
  listen : ∀ l ev, Extends (listen n l ev) (listen (n + 1) l ev)
  callHandler : ∀ h ev, Extends (callHandler n h ev) (callHandler (n + 1) h ev)
  actions : ∀ owner acts, Extends (actions n owner acts) (actions (n + 1) owner acts)
  action : ∀ i act, Extends (action n i act) (action (n + 1) i act)
  triggerInstance : ∀ i, Extends (triggerInstance n i) (triggerInstance (n + 1) i)
  checkCap : ∀ caps name, Extends (checkCap n caps name) (checkCap (n + 1) caps name)
  callEmit : ∀ f topic data, Extends (callEmit n f topic data) (callEmit (n + 1) f topic data)
  emitOnBus : ∀ topic data, Extends (emitOnBus n topic data) (emitOnBus (n + 1) topic data)
  deliver : ∀ s topic data, Extends (deliver n s topic data) (deliver (n + 1) s topic data)
  busActs : ∀ acts, Extends (busActs n acts) (busActs (n + 1) acts)

section Steps

/- One level up, each function is unfolded on both sides, the matches the two sides share are split
together, and what is left are the recursive calls, one level apart, which the bundle relates. -/

variable {n : Nat} (ih : Deepens n)
include ih

theorem instantiate_deepens (c : Component) (name : String) (props : Props) (caps : Nat) :
    Extends (instantiate (n + 1) c name props caps) (instantiate (n + 2) c name props caps) := by
  rw [instantiate.eq_def, instantiate.eq_def]
  dsimp only
  cases c with
  -- The bundled components call no engine function, so the extra level never reaches them.
  | demo d => cases d <;> rfl
  | script s =>
    dsimp only
    gcongr
    split <;> gcongr
    · exact ih.actions _ _
    · exact ih.actions _ _

theorem renderString_deepens (r : Nat) (v : Value) :
    Extends (renderString (n + 1) r v) (renderString (n + 2) r v) := by
  rw [renderString.eq_def, renderString.eq_def]
  dsimp only
  -- A plain value is written as text and the empty node as nothing, neither going deeper.
  split
  · rfl
  split
  · rfl
  split
  · gcongr
    · exact ih.instantiate _ _ _ _
    · exact ih.callRender _ _ _
    · exact ih.renderString _ _
  · gcongr
    · exact ih.renderAll _ _
    · split <;> gcongr
      exact ih.renderAll _ _

theorem renderAll_deepens (r : Nat) (vs : List Value) :
    Extends (renderAll (n + 1) r vs) (renderAll (n + 2) r vs) := by
  rw [renderAll.eq_def, renderAll.eq_def]
  cases vs with
  | nil => rfl
  | cons v rest =>
    dsimp only
    gcongr
    · exact ih.renderString _ _
    · exact ih.renderAll _ _

theorem mount_deepens (r : Nat) (v : Value) (container : Nat) (owner : Option Nat) :
    Extends (mount (n + 1) r v container owner) (mount (n + 2) r v container owner) := by
  rw [mount.eq_def, mount.eq_def]
  dsimp only
  -- A value that is no node, and the empty node, fail to mount at every depth.
  split
  · rfl
  split
  · rfl
  gcongr
  split
  · gcongr
    · exact ih.instantiate _ _ _ _
    · exact ih.renderPhase _ _ _
  · split <;> gcongr
    all_goals exact ih.renderPhase _ _ _

theorem renderPhase_deepens (r id : Nat) (first : Bool) :
    Extends (renderPhase (n + 1) r id first) (renderPhase (n + 2) r id first) := by
  rw [renderPhase.eq_def, renderPhase.eq_def]
  dsimp only
  gcongr
  -- A mount point that is gone renders nothing, and an empty render fails, at every depth.
  split
  · rfl
  gcongr
  · exact ih.callRender _ _ _
  split
  · rfl
  gcongr
  · exact ih.mountChildren _ _ _ _
  · exact ih.mount _ _ _ _
  split <;> gcongr
  exact ih.mountChildren _ _ _ _

theorem mountChildren_deepens (r : Nat) (cs : List Value) (into owner : Nat) :
    Extends (mountChildren (n + 1) r cs into owner) (mountChildren (n + 2) r cs into owner) := by
  rw [mountChildren.eq_def, mountChildren.eq_def]
  cases cs with
  | nil => rfl
  | cons c rest =>
    dsimp only
    gcongr
    exacts [ih.mount _ _ _ _, ih.mountChildren _ _ _ _, ih.mountChildren _ _ _ _]

theorem update_deepens (r id : Nat) : Extends (update (n + 1) r id) (update (n + 2) r id) := by
  rw [update.eq_def, update.eq_def]
  dsimp only
  gcongr
  exact ih.renderPhase _ _ _

theorem fire_deepens (target : TriggerTarget) : Extends (fire (n + 1) target) (fire (n + 2) target) := by
  rw [fire.eq_def, fire.eq_def]
  dsimp only
  cases target with
  | none => rfl
  | mountPoint r id =>
    dsimp only
    gcongr
    split <;> gcongr
    exact ih.update _ _

theorem dispatch_deepens (ev : Event) : Extends (dispatch (n + 1) ev) (dispatch (n + 2) ev) := by
  rw [dispatch.eq_def, dispatch.eq_def]
  dsimp only
  gcongr
  exact ih.listen _ _

theorem listen_deepens (l : Listener) (ev : Event) : Extends (listen (n + 1) l ev) (listen (n + 2) l ev) := by
  rw [listen.eq_def, listen.eq_def]
  dsimp only
  cases l with
  | recorder id failure => rfl
  | mounted r id h =>
    dsimp only
    gcongr
    · exact ih.callHandler _ _
    split <;> gcongr
    exact ih.update _ _

theorem callHandler_deepens (h : Routine) (ev : Option Event) :
    Extends (callHandler (n + 1) h ev) (callHandler (n + 2) h ev) := by
  rw [callHandler.eq_def, callHandler.eq_def]
  dsimp only
  split
  · gcongr
    split <;> gcongr
    all_goals exact ih.actions _ _
  · rfl
  · rfl

theorem actions_deepens (owner : Option Nat) (acts : List Action) :
    Extends (actions (n + 1) owner acts) (actions (n + 2) owner acts) := by
  rw [actions.eq_def, actions.eq_def]
  cases acts with
  | nil => rfl
  | cons act rest =>
    dsimp only
    gcongr
    -- Without an instance an action is only traced; with one it runs a level down.
    split
    · simp only [pure_bind]
      split <;> gcongr
      exact ih.actions _ _
    · gcongr
      · exact ih.action _ _
      · split
        · rfl
        · exact ih.actions _ _

theorem action_deepens (i : Nat) (act : Action) : Extends (action (n + 1) i act) (action (n + 2) i act) := by
  rw [action.eq_def, action.eq_def]
  dsimp only
  gcongr
  cases act <;> dsimp only <;> gcongr
  · exact ih.callEmit _ _ _
  · exact ih.triggerInstance _
  · exact ih.checkCap _ _

theorem triggerInstance_deepens (i : Nat) :
    Extends (triggerInstance (n + 1) i) (triggerInstance (n + 2) i) := by
  rw [triggerInstance.eq_def, triggerInstance.eq_def]
  dsimp only
  gcongr
  split
  · rfl
  · gcongr
    exact ih.fire _
  · rfl

theorem checkCap_deepens (caps : Nat) (name : String) :
    Extends (checkCap (n + 1) caps name) (checkCap (n + 2) caps name) := by
  rw [checkCap.eq_def, checkCap.eq_def]
  dsimp only
  split <;> gcongr
  exact ih.callEmit _ _ _

theorem callEmit_deepens (f : Value) (topic : String) (data : Value) :
    Extends (callEmit (n + 1) f topic data) (callEmit (n + 2) f topic data) := by
  rw [callEmit.eq_def, callEmit.eq_def]
  dsimp only
  split
  · exact ih.emitOnBus _ _
  · rfl

theorem emitOnBus_deepens (topic : String) (data : Value) :
    Extends (emitOnBus (n + 1) topic data) (emitOnBus (n + 2) topic data) := by
  rw [emitOnBus.eq_def, emitOnBus.eq_def]
  dsimp only
  gcongr
  exact ih.deliver _ _ _

theorem deliver_deepens (s : Subscriber) (topic : String) (data : Value) :
    Extends (deliver (n + 1) s topic data) (deliver (n + 2) s topic data) := by
  rw [deliver.eq_def, deliver.eq_def]
  dsimp only
  cases s with
  | recording id acts =>
    dsimp only
    gcongr
    exact ih.busActs _
  | greeter st => rfl
  | scripted i topic' key rerender =>
    dsimp only
    gcongr
    split
    · split <;> gcongr
      all_goals exact ih.triggerInstance _
    · gcongr
      exact ih.triggerInstance _
  | silent => rfl

theorem busActs_deepens (acts : List BusAct) : Extends (busActs (n + 1) acts) (busActs (n + 2) acts) := by
  rw [busActs.eq_def, busActs.eq_def]
  cases acts with
  | nil => rfl
  | cons a rest =>
    dsimp only
    split <;> gcongr
    · split
      · gcongr
        exact ih.busActs _
      · exact ih.busActs _
    · exact ih.busActs _
    · exact ih.emitOnBus _ _
    · exact ih.busActs _
    · exact ih.busActs _

end Steps

theorem callRender_deepens (n : Nat) (fn : RenderFn) (props : Props) (children : List Value) :
    Extends (callRender n fn props children) (callRender (n + 1) fn props children) := by
  cases n with
  | zero => exact Extends.exhausted _
  | succ n => rfl

/-- At no depth, every engine function runs out at once. -/
theorem Deepens.zero : Deepens 0 where
  instantiate _ _ _ _ := by rw [instantiate.eq_def]; exact .exhausted _
  callRender := callRender_deepens 0
  renderString _ _ := by rw [renderString.eq_def]; exact .exhausted _
  renderAll _ _ := by rw [renderAll.eq_def]; exact .exhausted _
  mount _ _ _ _ := by rw [mount.eq_def]; exact .exhausted _
  renderPhase _ _ _ := by rw [renderPhase.eq_def]; exact .exhausted _
  mountChildren _ _ _ _ := by rw [mountChildren.eq_def]; exact .exhausted _
  update _ _ := by rw [update.eq_def]; exact .exhausted _
  fire _ := by rw [fire.eq_def]; exact .exhausted _
  dispatch _ := by rw [dispatch.eq_def]; exact .exhausted _
  listen _ _ := by rw [listen.eq_def]; exact .exhausted _
  callHandler _ _ := by rw [callHandler.eq_def]; exact .exhausted _
  actions _ _ := by rw [actions.eq_def]; exact .exhausted _
  action _ _ := by rw [action.eq_def]; exact .exhausted _
  triggerInstance _ := by rw [triggerInstance.eq_def]; exact .exhausted _
  checkCap _ _ := by rw [checkCap.eq_def]; exact .exhausted _
  callEmit _ _ _ := by rw [callEmit.eq_def]; exact .exhausted _
  emitOnBus _ _ := by rw [emitOnBus.eq_def]; exact .exhausted _
  deliver _ _ _ := by rw [deliver.eq_def]; exact .exhausted _
  busActs _ := by rw [busActs.eq_def]; exact .exhausted _

theorem Deepens.succ {n : Nat} (ih : Deepens n) : Deepens (n + 1) :=
  ⟨instantiate_deepens ih, callRender_deepens (n + 1), renderString_deepens ih, renderAll_deepens ih,
    mount_deepens ih, renderPhase_deepens ih, mountChildren_deepens ih, update_deepens ih, fire_deepens ih,
    dispatch_deepens ih, listen_deepens ih, callHandler_deepens ih, actions_deepens ih, action_deepens ih,
    triggerInstance_deepens ih, checkCap_deepens ih, callEmit_deepens ih, emitOnBus_deepens ih, deliver_deepens ih,
    busActs_deepens ih⟩

/-- At every depth, every engine function extends what it does at the depth one below. -/
theorem deepens : ∀ n, Deepens n
  | 0 => .zero
  | n + 1 => (deepens n).succ

/-- Rendering to markup keeps its outcome at every larger depth allowance, wherever it did not run
out. -/
theorem renderString_extends {m k : Nat} (le : m ≤ k) (r : Nat) (v : Value) :
    Extends (renderString m r v) (renderString k r v) := by
  induction k, le using Nat.le_induction with
  | base => rfl
  | succ k _ below => exact below.trans ((deepens k).renderString r v)

end Run

end ViewEngine
