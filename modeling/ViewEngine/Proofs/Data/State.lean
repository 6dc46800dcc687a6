import ViewEngine.State
import ViewEngine.Proofs.Data.Dict

/-! State records after any sequence of writes. The key list names every field once: the
initial fields in ascending order, then the fields the writes added, in the order each was first
written. A field reads as its latest write, the initial mapping counting as the first writes, and
a snapshot holds exactly the listed fields. A record, its key list and its snapshots are values,
so a change made to one of them later reaches none of the others. -/

namespace ViewEngine

namespace StateRecord

/-- Sets fields one after another. -/
def setAll (s : StateRecord) (writes : List (String × Value)) : StateRecord :=
  writes.foldl (fun s kv => s.set kv.1 kv.2) s

@[simp] theorem setAll_nil (s : StateRecord) : s.setAll [] = s := rfl

@[simp] theorem setAll_cons (s : StateRecord) (kv : String × Value) (rest : List (String × Value)) :
    s.setAll (kv :: rest) = (s.set kv.1 kv.2).setAll rest := rfl

/-- A record whose fields are kept in key order and whose key list names exactly its fields,
each once. -/
structure WellFormed (s : StateRecord) : Prop where
  sorted : s.values.Sorted
  nodup : s.keys.Nodup
  mem_keys : ∀ k, k ∈ s.keys ↔ k ∈ s.values.keys

theorem wellFormed_ofFields (init : Option (List (String × Value))) : (ofFields init).WellFormed :=
  -- The key list is the map's own key list.
  ⟨Dict.sorted_nil.insertAll _, (Dict.sorted_nil.insertAll _).nodup, fun _ => Iff.rfl⟩

/-- Setting a field keeps a record well formed: a new field is added to the map and listed
last, an existing one only changes its value. -/
theorem WellFormed.set {s : StateRecord} (wf : s.WellFormed) (key : String) (v : Value) :
    (s.set key v).WellFormed := by
  refine ⟨wf.sorted.insert key v, ?_, fun k => ?_⟩
  · by_cases known : s.values.contains key = true
    · simpa [StateRecord.set, known] using wf.nodup
    · have fresh : key ∉ s.keys := fun h => known ((Dict.contains_iff _ _).2 ((wf.mem_keys key).1 h))
      have added : (s.set key v).keys = s.keys ++ [key] := by simp [StateRecord.set, known]
      rw [added, List.nodup_append]
      refine ⟨wf.nodup, List.nodup_singleton key, fun a old b new same => fresh ?_⟩
      rw [List.mem_singleton.1 new] at same
      exact same ▸ old
  · rw [StateRecord.set, Dict.mem_keys_insert, ← wf.mem_keys]
    by_cases known : s.values.contains key = true
    · have listed := (wf.mem_keys key).2 ((Dict.contains_iff _ _).1 known)
      simp only [known, if_true]
      constructor
      · exact Or.inr
      · rintro (rfl | old)
        · exact listed
        · exact old
    · simp only [known, Bool.false_eq_true, if_false, List.mem_append, List.mem_singleton]
      tauto

theorem WellFormed.setAll {s : StateRecord} (wf : s.WellFormed) (writes : List (String × Value)) :
    (s.setAll writes).WellFormed := by
  induction writes generalizing s with
  | nil => exact wf
  | cons kv rest ih => exact ih (wf.set kv.1 kv.2)

/-- Writes store their values in the map one after another. -/
theorem values_setAll (s : StateRecord) (writes : List (String × Value)) :
    (s.setAll writes).values = s.values.insertAll writes := by
  induction writes generalizing s with
  | nil => rfl
  | cons kv rest ih => exact ih _

/-- Writes add the fields not listed yet after the listed ones, each in the order it was first
written. -/
theorem keys_setAll {s : StateRecord} (wf : s.WellFormed) (writes : List (String × Value)) :
    (s.setAll writes).keys = s.keys ++ ((writes.map Prod.fst).filter (· ∉ s.keys)).eraseDups := by
  induction writes generalizing s with
  | nil => simp
  | cons kv rest ih =>
    obtain ⟨key, v⟩ := kv
    rw [setAll_cons, ih (wf.set key v)]
    by_cases listed : key ∈ s.keys
    · -- Writing a listed field leaves the list alone.
      have known : s.values.contains key = true := (Dict.contains_iff _ _).2 ((wf.mem_keys key).1 listed)
      simp [StateRecord.set, known, listed]
    · -- A new field is listed last, and later writes of it add nothing more.
      have known : s.values.contains key = false :=
        Bool.eq_false_iff.2 fun h => listed ((wf.mem_keys key).2 ((Dict.contains_iff _ _).1 h))
      have added : (s.set key v).keys = s.keys ++ [key] := by simp [StateRecord.set, known]
      rw [added, List.map_cons, List.filter_cons_of_pos (by simpa using listed), List.eraseDups_cons,
        List.filter_filter, List.append_assoc, List.singleton_append]
      congr 3
      refine List.filter_congr fun k _ => ?_
      by_cases same : k = key <;> simp [same]

/-- The fields of a fresh record are the initial mapping's keys, in ascending order. -/
theorem keys_ofFields (init : Option (List (String × Value))) :
    (ofFields init).keys = ((init.getD []).map Prod.fst).toFinset.sort (· ≤ ·) := by
  have sorted : (ofFields init).values.Sorted := (wellFormed_ofFields init).sorted
  have same : (ofFields init).values.keys.toFinset = ((init.getD []).map Prod.fst).toFinset := by
    ext k
    simp [ofFields, Dict.ofList_eq_insertAll, Dict.mem_keys_insertAll]
  show (ofFields init).values.keys = _
  rw [sorted.keys_eq_sort, same]

theorem mem_keys_ofFields (init : Option (List (String × Value))) (k : String) :
    k ∈ (ofFields init).keys ↔ k ∈ (init.getD []).map Prod.fst := by
  simp [keys_ofFields]

/-- State record laws. For every initial mapping and every sequence of writes: the key list is
the initial keys in ascending order followed by the keys the writes introduced, in the order of
their first write, so it names every field exactly once; a snapshot holds exactly the listed
fields; and a field reads as the value of its latest write, else as the initial mapping's value
(the later of two entries of one key winning, as in building a map), else as absent. -/
theorem fields_follow_writes (init : Option (List (String × Value))) (writes : List (String × Value)) :
    let initial := (init.getD []).map Prod.fst
    let s := (ofFields init).setAll writes
    s.keys = initial.toFinset.sort (· ≤ ·) ++ ((writes.map Prod.fst).filter (· ∉ initial)).eraseDups ∧
      s.keys.Nodup ∧ (s.snapshot.map Prod.fst).Perm s.keys ∧
      ∀ k, s.lookup k = ((init.getD []) ++ writes).reverse.lookup k ∧
        s.get k = ((((init.getD []) ++ writes).reverse.lookup k).getD .null) := by
  intro initial s
  have wf : s.WellFormed := (wellFormed_ofFields init).setAll writes
  have reads : ∀ k, s.lookup k = ((init.getD []) ++ writes).reverse.lookup k := by
    intro k
    simp [s, lookup, values_setAll, ofFields, Dict.ofList_eq_insertAll, ← Dict.insertAll_append,
      Dict.get?_insertAll, Dict.get?]
  refine ⟨?_, wf.nodup, ?_, fun k => ⟨reads k, by rw [get, reads k]⟩⟩
  · -- The writes are filtered against the initial keys, which the fresh record lists.
    rw [keys_setAll (wellFormed_ofFields init), keys_ofFields]
    congr 3
    funext k
    simp [initial]
  · -- Both lists hold each field once, and the same fields.
    exact (List.perm_ext_iff_of_nodup wf.sorted.nodup wf.nodup).2 fun k => (wf.mem_keys k).symm

end StateRecord

end ViewEngine
