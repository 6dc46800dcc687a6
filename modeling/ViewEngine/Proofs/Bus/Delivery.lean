import ViewEngine.Engine.Api

/-! Calls on a bus and what they leave behind. Replayed from the empty bus, a history of
subscriptions and disposals leaves as the subscribers of a topic exactly its subscriptions whose
disposer was not called, oldest first; a disposer takes out its own subscription and nothing else,
and calling it again does nothing. An emission delivers to the subscribers the bus had when it
began, whatever the deliveries then do to the bus. -/

namespace ViewEngine

namespace Bus

variable {S : Type}

/-- A call on a bus: subscribing a receiver to a topic, or calling the disposer that the `k`-th
subscription, counting from zero, handed out. -/
inductive Call (S : Type) where
  | on (topic : String) (s : S)
  | dispose (k : Nat)

namespace Call

/-- Makes one call on a bus, keeping beside it the topic and number that each disposer handed out
so far removes. -/
def apply : Bus S × List (String × Nat) → Call S → Bus S × List (String × Nat)
  | (b, handles), .on topic s =>
    let (b', id) := b.subscribe topic s
    (b', handles ++ [(topic, id)])
  | (b, handles), .dispose k =>
    match handles[k]? with
    | some (topic, id) => (b.remove topic id, handles)
    | none => (b, handles)

/-- The subscriptions calls made, oldest first: the topic and receiver of each `on`. -/
def made (cs : List (Call S)) : List (String × S) :=
  cs.filterMap fun
    | .on topic s => some (topic, s)
    | .dispose _ => none

/-- Whether calls include calling the disposer of the `k`-th subscription. -/
def disposes (cs : List (Call S)) (k : Nat) : Bool :=
  cs.any fun
    | .dispose j => j == k
    | .on _ _ => false

/-- Each disposer among calls is called only after the subscription that handed it out, given how
many subscriptions were made before the calls. -/
def ValidFrom : Nat → List (Call S) → Prop
  | _, [] => True
  | n, .on _ _ :: rest => ValidFrom (n + 1) rest
  | n, .dispose k :: rest => k < n ∧ ValidFrom n rest

instance decValidFrom : (n : Nat) → (cs : List (Call S)) → Decidable (ValidFrom n cs)
  | _, [] => isTrue trivial
  | n, .on _ _ :: rest => decValidFrom (n + 1) rest
  | n, .dispose k :: rest => @instDecidableAnd _ _ (Nat.decLt k n) (decValidFrom n rest)

/-- Each disposer is called only after the subscription that handed it out. -/
def Valid (cs : List (Call S)) : Prop := ValidFrom 0 cs

instance (cs : List (Call S)) : Decidable (Valid cs) := decValidFrom 0 cs

/-- The subscriptions to a topic whose disposer was not called, oldest first, each with its place
among all subscriptions. -/
def liveEntries (cs : List (Call S)) (topic : String) : List ((String × S) × Nat) :=
  (made cs).zipIdx.filter fun e => e.1.1 == topic && !disposes cs e.2

/-- The receivers of the subscriptions to a topic whose disposer was not called, oldest first. -/
def live (cs : List (Call S)) (topic : String) : List S := (liveEntries cs topic).map (·.1.2)

@[simp] theorem made_nil : made ([] : List (Call S)) = [] := rfl

@[simp] theorem made_append_on (cs : List (Call S)) (topic : String) (s : S) :
    made (cs ++ [.on topic s]) = made cs ++ [(topic, s)] := by
  simp [made, List.filterMap_append]

@[simp] theorem made_append_dispose (cs : List (Call S)) (k : Nat) :
    made (cs ++ [.dispose k]) = made cs := by
  simp [made, List.filterMap_append]

@[simp] theorem disposes_nil (k : Nat) : disposes ([] : List (Call S)) k = false := rfl

@[simp] theorem disposes_append_on (cs : List (Call S)) (topic : String) (s : S) (k : Nat) :
    disposes (cs ++ [.on topic s]) k = disposes cs k := by
  simp [disposes, List.any_append]

@[simp] theorem disposes_append_dispose (cs : List (Call S)) (j k : Nat) :
    disposes (cs ++ [.dispose j]) k = (disposes cs k || j == k) := by
  simp [disposes, List.any_append]

end Call

/-- The bus, with what each disposer removes, after calls made on the empty bus. -/
def replay (cs : List (Call S)) : Bus S × List (String × Nat) := cs.foldl Call.apply (empty, [])

/-- The subscription a made subscription is on a bus: its number is one more than its place. -/
def Call.entry (e : (String × S) × Nat) : Subscription S := ⟨e.1.1, e.2 + 1, e.1.2⟩

/-- A bus, with the handles of its disposers, is what a history of calls leaves: the `k`-th
subscription has the number `k + 1`, its disposer removes that number from its topic, the bus
holds the subscriptions whose disposer was not called, oldest first, and only disposers of
subscriptions already made were called. -/
structure Tracks (cs : List (Call S)) (st : Bus S × List (String × Nat)) : Prop where
  next : st.1.next = (Call.made cs).length
  handles : st.2 = (Call.made cs).zipIdx.map fun e => (e.1.1, e.2 + 1)
  subs : st.1.subs = ((Call.made cs).zipIdx.filter fun e => !Call.disposes cs e.2).map Call.entry
  disposed : ∀ k, Call.disposes cs k = true → k < (Call.made cs).length

theorem tracks_nil : Tracks ([] : List (Call S)) (empty, []) :=
  ⟨rfl, rfl, rfl, fun _ h => absurd h (by simp)⟩

/-- A subscription adds its receiver last, with the next number, and hands out the disposer of that
number. -/
theorem Tracks.on {cs : List (Call S)} {st : Bus S × List (String × Nat)} (h : Tracks cs st)
    (topic : String) (s : S) : Tracks (cs ++ [.on topic s]) (Call.apply st (.on topic s)) := by
  obtain ⟨⟨next, subs⟩, handles⟩ := st
  obtain ⟨hnext, hhandles, hsubs, disposed⟩ := h
  dsimp only at hnext hhandles hsubs
  -- The new subscription's place is the number of those made before, and no disposer names it.
  have fresh : Call.disposes cs (Call.made cs).length = false := by
    cases hd : Call.disposes cs (Call.made cs).length
    · rfl
    · exact absurd (disposed _ hd) (Nat.lt_irrefl _)
  refine ⟨?_, ?_, ?_, ?_⟩
  · simp [Call.apply, subscribe, hnext]
  · simp [Call.apply, subscribe, hhandles, hnext, List.zipIdx_append]
  · simp [Call.apply, subscribe, hsubs, hnext, List.zipIdx_append, List.filter_append, fresh,
      Call.entry]
  · intro k hk
    simp only [Call.disposes_append_on] at hk
    simpa using Nat.lt_succ_of_lt (disposed k hk)

/-- Calling the disposer of a subscription already made takes out that subscription alone. -/
theorem Tracks.dispose {cs : List (Call S)} {st : Bus S × List (String × Nat)} (h : Tracks cs st)
    {k : Nat} (made : k < (Call.made cs).length) :
    Tracks (cs ++ [.dispose k]) (Call.apply st (.dispose k)) := by
  obtain ⟨⟨next, subs⟩, handles⟩ := st
  obtain ⟨hnext, hhandles, hsubs, disposed⟩ := h
  dsimp only at hnext hhandles hsubs
  -- The disposer's handle names the subscription's topic and number `k + 1`.
  have handle : handles[k]? = some ((Call.made cs)[k].1, k + 1) := by
    simp [hhandles, made]
  refine ⟨?_, ?_, ?_, ?_⟩
  · simpa [Call.apply, handle, remove] using hnext
  · simpa [Call.apply, handle] using hhandles
  · simp only [Call.apply, handle, remove, hsubs, List.filter_map, List.filter_filter,
      Call.made_append_dispose, Call.disposes_append_dispose]
    congr 1
    apply List.filter_congr
    rintro ⟨⟨topic, s⟩, j⟩ mem
    -- Only the entry at place `k` has the number `k + 1`, and its topic is the handle's.
    by_cases same : j = k
    · subst same
      have entry : (Call.made cs)[j]? = some (topic, s) := List.mem_zipIdx_iff_getElem?.1 mem
      have inside : j < (Call.made cs).length := made
      rw [List.getElem?_eq_getElem inside, Option.some.injEq] at entry
      simp [Call.entry, entry]
    · have other : (j + 1 == k + 1) = false := by simpa using same
      have other' : (k == j) = false := by simpa using Ne.symm same
      simp [Call.entry, other, other']
  · intro j hj
    simp only [Call.disposes_append_dispose, Bool.or_eq_true, beq_iff_eq] at hj
    rcases hj with old | rfl
    · simpa using disposed j old
    · simpa using made

/-- Replaying valid calls after a history keeps the bus what the longer history leaves. -/
theorem Tracks.replay {cs : List (Call S)} {st : Bus S × List (String × Nat)} (h : Tracks cs st) :
    ∀ ds, Call.ValidFrom (Call.made cs).length ds → Tracks (cs ++ ds) (ds.foldl Call.apply st) := by
  intro ds
  -- One call at a time, each step lemma moving the history on by that call.
  induction ds generalizing cs st with
  | nil => intro _; simpa using h
  | cons c rest ih =>
    cases c with
    | on topic s =>
      intro valid
      have step := h.on topic s
      have count : (Call.made (cs ++ [.on topic s])).length = (Call.made cs).length + 1 := by simp
      simpa using ih step (count ▸ valid)
    | dispose k =>
      intro valid
      have step := h.dispose valid.1
      simpa using ih step (by simpa using valid.2)

/-- A valid history replayed from the empty bus leaves what it is tracked to leave. -/
theorem tracks_replay {cs : List (Call S)} (valid : Call.Valid cs) : Tracks cs (replay cs) := by
  have h := tracks_nil.replay cs valid
  rw [List.nil_append] at h
  exact h

/-- Two histories that made the same subscriptions and called the same disposers leave the same
bus. -/
theorem Tracks.unique {cs cs' : List (Call S)} {st st' : Bus S × List (String × Nat)}
    (h : Tracks cs st) (h' : Tracks cs' st') (made : Call.made cs = Call.made cs')
    (disposed : Call.disposes cs = Call.disposes cs') : st = st' := by
  obtain ⟨⟨next, subs⟩, handles⟩ := st
  obtain ⟨⟨next', subs'⟩, handles'⟩ := st'
  have nexts : next = next' := h.next.trans (made ▸ h'.next.symm)
  have subss : subs = subs' := h.subs.trans (made ▸ disposed ▸ h'.subs.symm)
  have handless : handles = handles' := h.handles.trans (made ▸ h'.handles.symm)
  subst nexts subss handless
  rfl

/-- The subscribers of a topic on a tracked bus are the receivers of its live subscriptions. -/
theorem Tracks.subscribers {cs : List (Call S)} {st : Bus S × List (String × Nat)} (h : Tracks cs st)
    (topic : String) : st.1.subscribers topic = Call.live cs topic := by
  simp [Bus.subscribers, h.subs, Call.live, Call.liveEntries, List.filter_map, List.filter_filter,
    Function.comp_def, Call.entry]

theorem Call.validFrom_append (n : Nat) (cs ds : List (Call S)) :
    ValidFrom n (cs ++ ds) ↔ ValidFrom n cs ∧ ValidFrom (n + (made cs).length) ds := by
  induction cs generalizing n with
  | nil => simp [ValidFrom]
  | cons c rest ih =>
    cases c with
    | on topic s =>
      have count : n + 1 + (made rest).length = n + (made (.on topic s :: rest)).length := by
        simp [made]
        omega
      simp only [List.cons_append, ValidFrom, ih, count]
    | dispose k =>
      have count : (made (.dispose k :: rest)).length = (made rest).length := by simp [made]
      simp only [List.cons_append, ValidFrom, ih, count, and_assoc]

end Bus

/-- A loop over a list that only yields runs its body on each item in order. -/
theorem List.forIn_yield_unit {m : Type → Type} [Monad m] [LawfulMonad m] {α : Type} (xs : List α)
    (f : α → m PUnit) :
    forIn xs PUnit.unit (fun a _ => do f a; pure (ForInStep.yield PUnit.unit)) = xs.forM f := by
  induction xs with
  | nil => rfl
  | cons a rest ih =>
    simp only [List.forIn_cons, bind_assoc, pure_bind, ih]
    rfl

/-- An emission delivers, one after another, to the subscribers its topic has when it begins. -/
theorem Run.emitOnBus_run (n : Nat) (topic : String) (data : Value) (w : World) :
    (Run.emitOnBus (n + 1) topic data).run w =
      ((w.bus.subscribers topic).forM fun s => do Run.spend; Run.deliver n s topic data).run w := by
  rw [Run.emitOnBus, ← List.forIn_yield_unit]
  simp only [bind_assoc, bind_pure_unit]
  rfl

namespace Bus

/-- Delivery on a bus follows its history of calls. The subscribers of a topic are the receivers
of its subscriptions whose disposer was not called, oldest first, and their count is the number of
such subscriptions. The disposer of the `k`-th subscription takes out that subscription, numbered
`k + 1`, and nothing else; calling it again changes nothing. An emission delivers to exactly the
subscribers live when it began, each once and in order, whatever the deliveries do to the bus. -/
theorem delivery_follows_history (cs : List (Call Subscriber)) (valid : Call.Valid cs)
    (topic : String) :
    (replay cs).1.subscribers topic = Call.live cs topic ∧
    (replay cs).1.count topic =
      (Call.made cs).zipIdx.countP (fun e => e.1.1 == topic && !Call.disposes cs e.2) ∧
    (∀ k, k < (Call.made cs).length →
      (replay (cs ++ [.dispose k])).1.subs = (replay cs).1.subs.filter (·.id != k + 1)) ∧
    (∀ k, Call.disposes cs k = true → replay (cs ++ [.dispose k]) = replay cs) ∧
    (∀ (w : World) (n : Nat) (data : Value), w.bus = (replay cs).1 →
      (Run.emitOnBus (n + 1) topic data).run w =
        ((Call.live cs topic).forM fun s => do Run.spend; Run.deliver n s topic data).run w) := by
  have tracked := tracks_replay valid
  -- A disposer of a subscription already made keeps the history valid.
  have extended : ∀ k, k < (Call.made cs).length → Tracks (cs ++ [.dispose k]) (replay (cs ++ [.dispose k])) :=
    fun k made => tracks_replay ((Call.validFrom_append 0 cs _).2 ⟨valid, by simpa [Call.ValidFrom] using made⟩)
  refine ⟨tracked.subscribers topic, ?_, fun k made => ?_, fun k again => ?_, fun w n data bus => ?_⟩
  · -- Counting the subscribers counts the live entries.
    simp only [Bus.count, tracked.subscribers topic, Call.live, List.length_map, Call.liveEntries,
      List.countP_eq_length_filter]
  · -- Both sides keep the entries not numbered `k + 1` of those live before.
    rw [(extended k made).subs, tracked.subs, List.filter_map, List.filter_filter,
      Call.made_append_dispose]
    congr 1
    apply List.filter_congr
    rintro ⟨_, j⟩ _
    simp only [Call.disposes_append_dispose, Function.comp_apply, Call.entry]
    by_cases same : j = k
    · simp [same]
    · have other : (k == j) = false := by simpa using Ne.symm same
      simp [same, other]
  · -- A second call of a disposer changes neither the subscriptions made nor those disposed.
    apply (extended k (tracked.disposed k again)).unique tracked (by simp)
    funext j
    by_cases same : k = j
    · subst same
      simp [again]
    · simp [same]
  · rw [Run.emitOnBus_run, bus, tracked.subscribers topic]

/-- The delivery law at a history that subscribes the same receiver twice to a topic and then
disposes the first subscription. -/
theorem delivery_follows_history_twice :
    let cs := [Call.on "greet" Subscriber.silent, .on "greet" .silent, .dispose 0]
    Call.Valid cs ∧
    (replay cs).1.subscribers "greet" = Call.live cs "greet" ∧
    (replay cs).1.count "greet" =
      (Call.made cs).zipIdx.countP (fun e => e.1.1 == "greet" && !Call.disposes cs e.2) ∧
    (∀ k, k < (Call.made cs).length →
      (replay (cs ++ [.dispose k])).1.subs = (replay cs).1.subs.filter (·.id != k + 1)) ∧
    (∀ k, Call.disposes cs k = true → replay (cs ++ [.dispose k]) = replay cs) ∧
    (∀ (w : World) (n : Nat) (data : Value), w.bus = (replay cs).1 →
      (Run.emitOnBus (n + 1) "greet" data).run w =
        ((Call.live cs "greet").forM fun s => do Run.spend; Run.deliver n s "greet" data).run w) := by
  intro cs
  exact ⟨by decide, delivery_follows_history cs (by decide) "greet"⟩

end Bus

end ViewEngine
