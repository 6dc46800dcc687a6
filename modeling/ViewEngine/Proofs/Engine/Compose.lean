import ViewEngine.Proofs.Engine.Recovery
import ViewEngine.Proofs.Data.Dict

/-! Composing capabilities from plugins. Composing calls each plugin once, in order, with the
re-render trigger (an absent plugin is skipped): the timer plugin is handed a fresh timer table and
the trigger plugin records the trigger, and nothing else in the world changes but the new set. The
set is the union of what the plugins provide in which the later plugin wins: a name reads as the
value the last plugin providing it gave, it is provided when some plugin provides it, and the
names come sorted, each once. So composing a concatenation of plugin lists is composing the first
list overridden by composing the second, which is how extra plugins, appended to a flavor's, win. -/

namespace ViewEngine

namespace Plugin

/-- The timer tables a plugin is handed when called: one for the timer plugin. -/
def tables : Plugin → Nat
  | .timers => 1
  | _ => 0

/-- The triggers a plugin records when called: one for the trigger plugin. -/
def records : Plugin → Nat
  | .trigger => 1
  | _ => 0

/-- What plugins provide when called one after another with a re-render trigger, from timer table
`table` on: each timer plugin is handed the next table. -/
def entries (rerender : TriggerTarget) (table : Nat) : List Plugin → List (String × Value)
  | [] => []
  | p :: rest => p.provides rerender table ++ entries rerender (table + p.tables) rest

@[simp] theorem entries_nil (rerender : TriggerTarget) (table : Nat) : entries rerender table [] = [] := rfl

@[simp] theorem entries_cons (rerender : TriggerTarget) (table : Nat) (p : Plugin) (rest : List Plugin) :
    entries rerender table (p :: rest) = p.provides rerender table ++ entries rerender (table + p.tables) rest :=
  rfl

/-- The entries of two plugin lists called one after the other: the second list's timer plugins are
handed the tables after the first list's. -/
theorem entries_append (rerender : TriggerTarget) (table : Nat) (ps qs : List Plugin) :
    entries rerender table (ps ++ qs) =
      entries rerender table ps ++ entries rerender (table + (ps.map tables).sum) qs := by
  induction ps generalizing table with
  | nil => simp
  | cons p rest ih => simp [ih, Nat.add_assoc]

/-- The capability set of plugins called one after another from timer table `table` on. -/
def composed (rerender : TriggerTarget) (table : Nat) (ps : List Plugin) : CapSet :=
  ⟨Dict.insertAll [] (entries rerender table ps)⟩

end Plugin

/-- The world after plugins were called with a re-render trigger: a fresh timer table for each
timer plugin, and the trigger recorded once for each trigger plugin. -/
def World.afterPlugins (w : World) (rerender : TriggerTarget) (ps : List Plugin) : World :=
  { w with timers := w.timers ++ Array.replicate (ps.map Plugin.tables).sum ⟨0, []⟩
           triggers := w.triggers ++ Array.replicate (ps.map Plugin.records).sum rerender }

@[simp] theorem World.afterPlugins_nil (w : World) (rerender : TriggerTarget) : w.afterPlugins rerender [] = w := by
  simp [World.afterPlugins]

theorem World.afterPlugins_cons (w : World) (rerender : TriggerTarget) (p : Plugin) (rest : List Plugin) :
    w.afterPlugins rerender (p :: rest) = (w.afterPlugins rerender [p]).afterPlugins rerender rest := by
  simp [World.afterPlugins, Array.append_assoc]

@[simp] theorem World.timers_size_afterPlugins (w : World) (rerender : TriggerTarget) (ps : List Plugin) :
    (w.afterPlugins rerender ps).timers.size = w.timers.size + (ps.map Plugin.tables).sum := by
  simp [World.afterPlugins]

namespace Run

/-- Calling one plugin stores what it provides under the timer table it is handed, the next one. -/
theorem composeOne_run (target : TriggerTarget) (values : Dict Value) (p : Plugin) (w : World) :
    (composeOne target values p).run w =
      .ok (values.insertAll (p.provides target w.timers.size)) (w.afterPlugins target [p]) := by
  -- Only the timer and trigger plugins change the world; the others provide fixed entries.
  cases p <;> simp [composeOne, World.afterPlugins, Plugin.tables, Plugin.records, Plugin.provides, EStateM.run, bind,
    EStateM.bind, get, getThe, MonadStateOf.get, EStateM.get, set, EStateM.set, modify, modifyGet,
    MonadStateOf.modifyGet, EStateM.modifyGet, pure, EStateM.pure]

/-- The loop of composing: the plugins are called in order, each storing its entries over what the
earlier ones stored. -/
theorem composeLoop_run (target : TriggerTarget) (ps : List Plugin) (values : Dict Value) (w : World) :
    (forIn ps values fun p r => do
        let v ← composeOne target r p
        pure (ForInStep.yield v) : Run (Dict Value)).run w =
      .ok (values.insertAll (Plugin.entries target w.timers.size ps)) (w.afterPlugins target ps) := by
  induction ps generalizing values w with
  | nil => rfl
  | cons p rest ih =>
    rw [List.forIn_cons, bind_run, bind_run, composeOne_run]
    simp only [pure_run]
    rw [ih, World.timers_size_afterPlugins, ← World.afterPlugins_cons, Plugin.entries_cons, Dict.insertAll_append]
    simp

/-- Composing capabilities: the plugins are called once each, in order, and the set they provide is
added to the world's capability sets. -/
theorem compose_run (ps : List Plugin) (target : TriggerTarget) (w : World) :
    (compose ps target).run w =
      .ok w.capsets.size { w.afterPlugins target ps with
        capsets := w.capsets.push (Plugin.composed target w.timers.size ps) } := by
  unfold compose
  simp only [bind_run, composeLoop_run]
  -- Calling the plugins leaves the capability sets alone, so the new set goes last among them.
  rfl

end Run

namespace Plugin

variable (rerender : TriggerTarget) (table : Nat) (ps : List Plugin)

/-- A name of a composed set reads as the last entry the plugins provided for it. -/
theorem composed_lookup (name : String) :
    (composed rerender table ps).lookup? name = (entries rerender table ps).reverse.lookup name := by
  simp [composed, CapSet.lookup?, Dict.get?_insertAll, Dict.get?]

/-- A name is provided by a composed set when some plugin provided it. -/
theorem composed_has (name : String) :
    (composed rerender table ps).has name = true ↔ name ∈ (entries rerender table ps).map Prod.fst := by
  simp [composed, CapSet.has, Dict.contains_iff, Dict.mem_keys_insertAll]

/-- The names of a composed set are the provided names, sorted, each once. -/
theorem composed_names :
    (composed rerender table ps).names = ((entries rerender table ps).map Prod.fst).toFinset.sort (· ≤ ·) := by
  have sorted : (Dict.insertAll [] (entries rerender table ps)).Sorted := Dict.sorted_nil.insertAll _
  have same : (Dict.insertAll [] (entries rerender table ps)).keys.toFinset =
      ((entries rerender table ps).map Prod.fst).toFinset := by
    ext name
    simp [Dict.mem_keys_insertAll]
  simp only [composed, CapSet.names]
  rw [sorted.keys_eq_sort, same]

example : (composed .none 0 [.provide [("a", .str "1"), ("b", .str "1")], .absent,
    .provide [("b", .str "2"), ("c", .str "2")]]).names = ["a", "b", "c"] := by decide

/-- Composing two plugin lists one after the other is composing the first overridden by the
second, whose timer plugins are handed the tables after the first list's. -/
theorem composed_append (qs : List Plugin) (name : String) :
    (composed rerender table (ps ++ qs)).lookup? name =
      ((composed rerender (table + (ps.map tables).sum) qs).lookup? name).or
        ((composed rerender table ps).lookup? name) := by
  simp only [composed_lookup, entries_append, List.reverse_append, List.lookup_append]

end Plugin

namespace Run

/-- Composing capabilities is a union in which the last plugin wins. For every plugin list (absent
plugins included) and every re-render trigger: composing calls each plugin once, in order, with
that trigger, which hands each timer plugin a fresh timer table, records the trigger once for
each trigger plugin and changes nothing else but adding the new set. In that set a name reads as
the last entry the plugins provided for it, it is provided exactly when some plugin provided it,
and the names are the provided names sorted, each once. Composing a concatenation is composing its
first part overridden by composing its second, whose timer plugins get the tables after the
first part's. -/
theorem compose_last_plugin_wins (ps : List Plugin) (target : TriggerTarget) (w : World) :
    let entries := Plugin.entries target w.timers.size ps
    let caps := Plugin.composed target w.timers.size ps
    (compose ps target).run w =
        .ok w.capsets.size { w.afterPlugins target ps with capsets := w.capsets.push caps } ∧
      (∀ name, caps.lookup? name = entries.reverse.lookup name) ∧
      (∀ name, caps.has name = true ↔ name ∈ entries.map Prod.fst) ∧
      caps.names = (entries.map Prod.fst).toFinset.sort (· ≤ ·) ∧
      ∀ qs name, (Plugin.composed target w.timers.size (ps ++ qs)).lookup? name =
        ((Plugin.composed target (w.timers.size + (ps.map Plugin.tables).sum) qs).lookup? name).or
          (caps.lookup? name) :=
  ⟨compose_run ps target w, Plugin.composed_lookup target _ ps, Plugin.composed_has target _ ps,
    Plugin.composed_names target _ ps, Plugin.composed_append target _ ps⟩

end Run

end ViewEngine
