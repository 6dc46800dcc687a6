import ViewEngine.Proofs.Engine.Compose

/-! The timer functions of a composed capability set. Each timer plugin is handed a table of its
own, and the four functions it provides all work on that table: `setTimeout` and `setInterval`
hand out the ids 1, 2, 3, … of one sequence and leave each pending, and `clearTimeout` and
`clearInterval` both take an id off the pending list, whichever function started it. So after any
calls on the set, the pending timers are the ids handed out that no later clear named, in the
order they were handed out, and clearing an id that is not pending changes nothing. -/

namespace ViewEngine

/-- A call of a timer function of a capability set: starting a timeout or an interval, or clearing
an id through `clearTimeout` or `clearInterval`. -/
inductive TimerCall where
  | start (interval : Bool)
  | clear (interval : Bool) (id : Nat)
  deriving Repr, DecidableEq

namespace TimerCall

/-- The name of the function a call goes through. -/
def name : TimerCall → String
  | .start false => "setTimeout"
  | .start true => "setInterval"
  | .clear false _ => "clearTimeout"
  | .clear true _ => "clearInterval"

/-- The names of the four timer functions. -/
def names : List String := ["setTimeout", "clearTimeout", "setInterval", "clearInterval"]

theorem name_mem (c : TimerCall) : c.name ∈ names := by
  rcases c with (_ | _) | (_ | _) <;> simp [name, names]

/-- The function a timer plugin handed table `t` provides for a call. -/
def routine (t : Nat) : TimerCall → Value
  | .start interval => .routine (.setTimer t interval)
  | .clear _ _ => .routine (.clearTimer t)

/-- Makes a call through the typed accessor of its function, returning the id a start hands out. -/
def run (caps : Nat) : TimerCall → Run (Option Nat)
  | .start interval => do
    let f ← Run.typedCap caps (start interval).name .setTimer
    let id ← Run.callTimer f
    pure (some id)
  | .clear interval id => do
    let f ← Run.typedCap caps (clear interval id).name .clearTimer
    Run.callClear f id
    pure none

/-- Whether a call starts a timer. -/
def isStart : TimerCall → Bool
  | .start _ => true
  | .clear _ _ => false

/-- What a call does to a timer table: a start hands out the next id and leaves it pending, a clear
takes its id off the pending list. -/
def step (tb : TimerTable) : TimerCall → TimerTable
  | .start _ => ⟨tb.next + 1, tb.pending ++ [tb.next + 1]⟩
  | .clear _ id => ⟨tb.next, tb.pending.erase id⟩

/-- What a call returns, `n` ids having been handed out before it: a start returns the next id. -/
def answer (n : Nat) : TimerCall → Option Nat
  | .start _ => some (n + 1)
  | .clear _ _ => none

/-- What calls return, `n` ids having been handed out before them. -/
def answers : Nat → List TimerCall → List (Option Nat)
  | _, [] => []
  | n, .start _ :: rest => some (n + 1) :: answers (n + 1) rest
  | n, .clear _ _ :: rest => none :: answers n rest

/-- Whether one of the calls clears id `j` once it was handed out, `n` ids having been handed out
before the calls. -/
def clears (j : Nat) : Nat → List TimerCall → Bool
  | _, [] => false
  | n, .start _ :: rest => clears j (n + 1) rest
  | n, .clear _ id :: rest => decide (id = j ∧ j ≤ n) || clears j n rest

theorem answers_cons (tb : TimerTable) (c : TimerCall) (rest : List TimerCall) :
    answers tb.next (c :: rest) = c.answer tb.next :: answers (c.step tb).next rest := by
  cases c <;> rfl

/-- The answers of two runs of calls, one after the other. -/
theorem answers_append (n : Nat) (xs ys : List TimerCall) :
    answers n (xs ++ ys) = answers n xs ++ answers (n + xs.countP isStart) ys := by
  induction xs generalizing n with
  | nil => rfl
  | cons c rest ih =>
    cases c with
    | start interval =>
      rw [List.cons_append, answers, answers, ih, List.countP_cons_of_pos rfl, List.cons_append,
        show n + 1 + rest.countP isStart = n + (rest.countP isStart + 1) by omega]
    | clear interval j => simp [answers, ih, isStart]

/-- The ids the starts return are the next ones, in call order. -/
theorem answers_ids (n : Nat) (calls : List TimerCall) :
    (answers n calls).filterMap id = List.range' (n + 1) (calls.countP isStart) := by
  induction calls generalizing n with
  | nil => rfl
  | cons c rest ih =>
    cases c with
    | start interval =>
      rw [answers, List.filterMap_cons_some (show id (some (n + 1)) = some (n + 1) from rfl), ih,
        List.countP_cons_of_pos rfl, List.range'_succ]
    | clear interval j =>
      rw [answers, List.filterMap_cons_none (show id (none : Option Nat) = none from rfl), ih,
        List.countP_cons_of_neg (by simp [isStart])]

end TimerCall

namespace TimerTable

/-- The table calls leave from table `tb`: the ids handed out run on from its last one, and a
pending id, old or new, stays pending unless a call clears it after it was handed out. -/
def after (tb : TimerTable) (calls : List TimerCall) : TimerTable :=
  ⟨tb.next + calls.countP TimerCall.isStart,
    (tb.pending ++ List.range' (tb.next + 1) (calls.countP TimerCall.isStart)).filter
      (fun j => !TimerCall.clears j tb.next calls)⟩

/-- A table whose pending ids are distinct and were all handed out. -/
def Sane (tb : TimerTable) : Prop := tb.pending.Nodup ∧ ∀ j ∈ tb.pending, j ≤ tb.next

theorem Sane.step {tb : TimerTable} (sane : tb.Sane) (c : TimerCall) : (c.step tb).Sane := by
  obtain ⟨distinct, issued⟩ := sane
  cases c with
  | start interval =>
    simp only [TimerCall.step]
    refine ⟨distinct.append (List.nodup_singleton _) ?_, ?_⟩
    · -- The new id is past every pending one.
      intro j mem fresh
      have := issued j mem
      simp at fresh
      omega
    · intro j mem
      rcases List.mem_append.1 mem with old | new
      · exact Nat.le_succ_of_le (issued j old)
      · exact (List.mem_singleton.1 new).le
  | clear interval id =>
    exact ⟨distinct.erase id, fun j mem => issued j (List.mem_of_mem_erase mem)⟩

@[simp] theorem after_nil (tb : TimerTable) : tb.after [] = tb := by
  simp [after, TimerCall.clears]

/-- Calls leave what their first call's table leaves under the rest. -/
theorem after_cons {tb : TimerTable} (sane : tb.Sane) (c : TimerCall) (rest : List TimerCall) :
    tb.after (c :: rest) = (c.step tb).after rest := by
  obtain ⟨distinct, issued⟩ := sane
  cases c with
  | start interval =>
    simp only [after, TimerCall.step, TimerCall.clears, List.countP_cons, TimerCall.isStart, if_true]
    rw [List.range'_succ, List.append_assoc, List.singleton_append]
    congr 1
    omega
  | clear interval id =>
    simp only [after, TimerCall.step, TimerCall.clears, List.countP_cons, TimerCall.isStart]
    rw [distinct.erase_eq_filter, List.filter_append, List.filter_append, List.filter_filter]
    congr 2
    · -- An old pending id was handed out, so the clear counts against it.
      apply List.filter_congr
      intro j mem
      have := issued j mem
      by_cases same : id = j
      · simp [same, this]
      · simp [same, Ne.symm same]
    · -- A new id is handed out after the clear, which does not count against it.
      apply List.filter_congr
      intro j mem
      have := (List.mem_range'_1.1 mem).1
      have : ¬ j ≤ tb.next := by omega
      simp [this]

/-- Calls in two runs leave what the second run leaves from the table the first one left. -/
theorem after_append {tb : TimerTable} (sane : tb.Sane) (xs ys : List TimerCall) :
    tb.after (xs ++ ys) = (tb.after xs).after ys := by
  induction xs generalizing tb with
  | nil => simp
  | cons c rest ih => rw [List.cons_append, after_cons sane, after_cons sane, ih (sane.step c)]

theorem after_singleton {tb : TimerTable} (sane : tb.Sane) (c : TimerCall) : tb.after [c] = c.step tb := by
  rw [after_cons sane, after_nil]

theorem Sane.after {tb : TimerTable} (sane : tb.Sane) (calls : List TimerCall) : (tb.after calls).Sane := by
  induction calls generalizing tb with
  | nil => simpa using sane
  | cons c rest ih => rw [after_cons sane]; exact ih (sane.step c)

end TimerTable

namespace Run

/-- Starting a timer hands out the id after the table's last one and leaves it pending. -/
theorem startTimer_run {t : Nat} {w : World} (present : t < w.timers.size) :
    (startTimer t).run w = .ok (w.timers[t].next + 1)
      { w with timers := w.timers.set t ⟨w.timers[t].next + 1, w.timers[t].pending ++ [w.timers[t].next + 1]⟩ } := by
  have table : w.timers.getD t default = w.timers[t] := by simp [Array.getD_eq_getD_getElem?, present]
  have placed : ∀ tb, w.timers.set! t tb = w.timers.set t tb present := fun tb => by
    rw [Array.set!_eq_setIfInBounds, Array.setIfInBounds_def, dif_pos present]
  simp only [startTimer, bind_run, get_run, table, placed]
  rfl

private theorem modify_eq_set {α : Type} {xs : Array α} {i : Nat} (f : α → α) (present : i < xs.size) :
    xs.modify i f = xs.set i (f xs[i]) present := by
  apply Array.ext (by simp)
  intro j inside _
  simp only [Array.getElem_modify, Array.getElem_set]
  by_cases same : i = j
  · subst same
    simp
  · simp [same]

/-- Stopping a timer takes its id off the table's pending list. -/
theorem stopTimer_run {t id : Nat} {w : World} (present : t < w.timers.size) :
    (stopTimer t id).run w = .ok ()
      { w with timers := w.timers.set t ⟨w.timers[t].next, w.timers[t].pending.erase id⟩ } := by
  simp only [stopTimer, modify, modifyGet, MonadStateOf.modifyGet, EStateM.modifyGet, EStateM.run]
  rw [modify_eq_set _ present]

end Run

namespace TimerCall

/-- A capability set wired to timer table `t`: each timer function is the one a timer plugin
handed `t` provides. -/
def Wired (w : World) (caps t : Nat) : Prop :=
  ∀ c : TimerCall, (w.capsets.getD caps default).lookup? c.name = some (c.routine t)

variable {w : World} {caps t : Nat}

/-- A call on a set wired to table `t` returns its answer and changes that table alone. -/
theorem run_step (wired : Wired w caps t) (present : t < w.timers.size) (c : TimerCall) :
    (c.run caps).run w = .ok (c.answer w.timers[t].next) { w with timers := w.timers.set t (c.step w.timers[t]) } := by
  cases c with
  | start interval =>
    simp only [run, Run.bind_run, Run.typedCap_run_lookup, wired (start interval), routine, CapType.accepts,
      if_true, Run.callTimer, Run.startTimer_run present, Run.pure_run]
    rfl
  | clear interval id =>
    simp only [run, Run.bind_run, Run.typedCap_run_lookup, wired (clear interval id), routine, CapType.accepts,
      if_true, Run.callClear, Run.stopTimer_run present, Run.pure_run]
    rfl

/-- Calls on a set wired to table `t` return their answers one after another and leave the table
the calls leave from it, nothing else changing. -/
theorem runAll (wired : Wired w caps t) (present : t < w.timers.size) (sane : w.timers[t].Sane)
    (calls : List TimerCall) :
    (calls.mapM (run caps)).run w =
      .ok (answers w.timers[t].next calls) { w with timers := w.timers.set t (w.timers[t].after calls) } := by
  induction calls generalizing w with
  | nil => simp [answers, Array.set_getElem_self]
  | cons c rest ih =>
    -- The call changes table `t` alone, so the set stays wired and the table sane.
    have present₁ : t < (w.timers.set t (c.step w.timers[t])).size := by simpa using present
    have read₁ : (w.timers.set t (c.step w.timers[t]))[t] = c.step w.timers[t] := Array.getElem_set_self _
    have sane₁ : (w.timers.set t (c.step w.timers[t]))[t].Sane := by
      rw [read₁]
      exact sane.step c
    rw [List.mapM_cons, Run.bind_run, run_step wired present]
    dsimp only
    rw [Run.bind_run, ih (w := { w with timers := w.timers.set t (c.step w.timers[t]) }) wired present₁ sane₁]
    simp only [Run.pure_run, read₁, answers_cons, TimerTable.after_cons sane, Array.set_set]

end TimerCall

namespace Plugin

variable {rerender : TriggerTarget} {table : Nat}

/-- An entry that plugins provide is provided by one of them, under some table. -/
theorem mem_entries {ps : List Plugin} {e : String × Value} (mem : e ∈ entries rerender table ps) :
    ∃ p ∈ ps, ∃ t, e ∈ p.provides rerender t := by
  induction ps generalizing table with
  | nil => simp at mem
  | cons p rest ih =>
    rcases List.mem_append.1 mem with here | later
    · exact ⟨p, List.mem_cons_self, table, here⟩
    · obtain ⟨q, listed, t, provided⟩ := ih later
      exact ⟨q, List.mem_cons_of_mem p listed, t, provided⟩

/-- A timer plugin followed by plugins that provide no timer function leaves the composed set wired
to the table it was handed. -/
theorem composed_wired (pre post : List Plugin)
    (untimed : ∀ p ∈ post, ∀ t, ∀ e ∈ p.provides rerender t, e.1 ∉ TimerCall.names) (c : TimerCall) :
    (composed rerender table (pre ++ .timers :: post)).lookup? c.name =
      some (c.routine (table + (pre.map tables).sum)) := by
  rw [composed_append, composed_lookup, entries_cons, List.reverse_append, List.lookup_append]
  -- The later plugins provide none of the four names, so the timer plugin's entry is read.
  have later : (entries rerender (table + (pre.map tables).sum + tables .timers) post).reverse.lookup c.name =
      none := by
    rw [List.lookup_eq_none_iff]
    intro e mem
    obtain ⟨p, listed, t, provided⟩ := mem_entries (List.mem_reverse.1 mem)
    have other : c.name ≠ e.1 := fun same => untimed p listed t e provided (same ▸ c.name_mem)
    simpa using other
  rw [later, Option.none_or]
  rcases c with (_ | _) | (_ | _) <;> rfl

end Plugin

namespace Run

/-- The timer table a compose hands its timer plugin is new and empty. -/
theorem afterPlugins_fresh_table (pre post : List Plugin) (target : TriggerTarget) (w : World) :
    (w.afterPlugins target (pre ++ .timers :: post)).timers[w.timers.size + (pre.map Plugin.tables).sum]? =
      some ⟨0, []⟩ := by
  simp only [World.afterPlugins]
  rw [Array.getElem?_append_right (by omega), Nat.add_sub_cancel_left, Array.getElem?_replicate, if_pos]
  simp [Plugin.tables]

/-- Timers of one composed set. Compose, in any world, plugins where a timer plugin follows `pre`
and no later plugin provides a timer function: the timer plugin is handed a new, empty table `t`
past the world's tables. Then for any calls of the four timer functions on the set: a start
returns the next id of one sequence 1, 2, 3, … shared by timeouts and intervals; the calls change
table `t` alone, leaving pending exactly the ids handed out that no call cleared after they were
handed out, so as many as were handed out less the distinct ones cleared. One more clear, through
either function, takes exactly its id off the pending list, and changes nothing when that id is
not pending. -/
theorem timer_calls_share_one_table (pre post : List Plugin) (target : TriggerTarget) (w : World)
    (untimed : ∀ p ∈ post, ∀ t, ∀ e ∈ p.provides target t, e.1 ∉ TimerCall.names) (calls : List TimerCall) :
    let ps := pre ++ .timers :: post
    let t := w.timers.size + (pre.map Plugin.tables).sum
    let w₁ := { w.afterPlugins target ps with capsets := w.capsets.push (Plugin.composed target w.timers.size ps) }
    let issued := calls.countP TimerCall.isStart
    let pending := (List.range' 1 issued).filter (fun j => !TimerCall.clears j 0 calls)
    (compose ps target).run w = .ok w.capsets.size w₁ ∧
      w₁.timers[t]? = some ⟨0, []⟩ ∧
      (calls.mapM (TimerCall.run w.capsets.size)).run w₁ =
        .ok (TimerCall.answers 0 calls) { w₁ with timers := w₁.timers.set! t ⟨issued, pending⟩ } ∧
      (TimerCall.answers 0 calls).filterMap id = List.range' 1 issued ∧
      pending.length = issued - ((List.range' 1 issued).filter (fun j => TimerCall.clears j 0 calls)).length ∧
      ∀ interval id, ((calls ++ [TimerCall.clear interval id]).mapM (TimerCall.run w.capsets.size)).run w₁ =
        .ok (TimerCall.answers 0 calls ++ [none])
          { w₁ with timers := w₁.timers.set! t ⟨issued, if id ∈ pending then pending.erase id else pending⟩ } := by
  intro ps t w₁ issued pending
  have fresh : w₁.timers[t]? = some ⟨0, []⟩ := afterPlugins_fresh_table pre post target w
  obtain ⟨present, read⟩ := Array.getElem?_eq_some_iff.1 fresh
  have wired : TimerCall.Wired w₁ w.capsets.size t := by
    intro c
    simp only [w₁, Array.getD_eq_getD_getElem?, Array.getElem?_push_size, Option.getD_some]
    exact Plugin.composed_wired pre post untimed c
  have sane : w₁.timers[t].Sane := by
    rw [read]
    exact ⟨List.nodup_nil, by simp⟩
  -- Every run of calls leaves table `t` as `after` says, from the empty table.
  have runs : ∀ more : List TimerCall, (more.mapM (TimerCall.run w.capsets.size)).run w₁ =
      .ok (TimerCall.answers 0 more) { w₁ with timers := w₁.timers.set! t (TimerTable.after ⟨0, []⟩ more) } := by
    intro more
    rw [TimerCall.runAll wired present sane, read, Array.set!_eq_setIfInBounds, Array.setIfInBounds_def,
      dif_pos present]
  have left : TimerTable.after ⟨0, []⟩ calls = ⟨issued, pending⟩ := by
    simp [TimerTable.after, issued, pending]
  refine ⟨compose_run ps target w, fresh, by rw [runs, left], TimerCall.answers_ids 0 calls, ?_, ?_⟩
  · -- The ids handed out split into those still pending and those cleared.
    have split : issued = pending.length + ((List.range' 1 issued).filter (fun j => TimerCall.clears j 0 calls)).length := by
      simpa [pending] using List.length_eq_length_filter_add (l := List.range' 1 issued) (fun j => !TimerCall.clears j 0 calls)
    omega
  · intro interval id
    have empty : TimerTable.Sane ⟨0, []⟩ := ⟨List.nodup_nil, by simp⟩
    rw [runs, TimerCall.answers_append, TimerTable.after_append empty, TimerTable.after_singleton (empty.after calls),
      left]
    by_cases listed : id ∈ pending
    · simp [TimerCall.answers, TimerCall.step, listed]
    · simp [TimerCall.answers, TimerCall.step, listed, List.erase_of_not_mem listed]

/-- A timeout and an interval get ids 1 and 2; `clearInterval` cancels the timeout, clearing it
again or clearing an unknown id does nothing, the next timeout gets id 3, and `clearTimeout`
cancels the interval, leaving 3 pending. -/
theorem clearInterval_cancels_a_timeout :
    (∀ p ∈ [Plugin.fragment], ∀ t, ∀ e ∈ p.provides .none t, e.1 ∉ TimerCall.names) ∧
      let w₁ := { (default : World).afterPlugins .none [.timers, .fragment] with
        capsets := #[Plugin.composed .none 0 [.timers, .fragment]] }
      ([.start false, .start true, .clear true 1, .clear false 1, .clear false 5, .start false, .clear false 2].mapM
          (TimerCall.run 0)).run w₁ =
        .ok [some 1, some 2, none, none, none, some 3, none] { w₁ with timers := w₁.timers.set! 0 ⟨3, [3]⟩ } := by
  have untimed : ∀ p ∈ [Plugin.fragment], ∀ t, ∀ e ∈ p.provides .none t, e.1 ∉ TimerCall.names := by
    simp [Plugin.provides, TimerCall.names]
  obtain ⟨-, -, run, -⟩ := timer_calls_share_one_table [] [.fragment] .none default untimed
    [.start false, .start true, .clear true 1, .clear false 1, .clear false 5, .start false, .clear false 2]
  exact ⟨untimed, run⟩

end Run

end ViewEngine
