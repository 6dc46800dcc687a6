import Mathlib.Data.Finset.Sort
import Mathlib.Data.String.Basic
import ViewEngine.Data.Dict

/-! Maps built by storing entries one after another. Their keys stay in strictly ascending order,
so the keys of a map are the sorted list of its key set; and a lookup finds the latest entry
stored under the key, else what the map held before. State records and capability sets are both
such maps. -/

namespace ViewEngine

namespace Dict

variable {α : Type}

@[simp] theorem insertAll_nil (d : Dict α) : d.insertAll [] = d := rfl

@[simp] theorem insertAll_cons (d : Dict α) (e : String × α) (rest : List (String × α)) :
    d.insertAll (e :: rest) = (d.insert e.1 e.2).insertAll rest := rfl

theorem insertAll_append (d : Dict α) (es fs : List (String × α)) :
    d.insertAll (es ++ fs) = (d.insertAll es).insertAll fs := by
  simp [insertAll, List.foldl_append]

theorem ofList_eq_insertAll (entries : List (String × α)) : ofList entries = insertAll [] entries := rfl

/-- The keys of a map are in strictly ascending order. -/
def Sorted (d : Dict α) : Prop := d.keys.Pairwise (· < ·)

@[simp] theorem keys_nil : keys ([] : Dict α) = [] := rfl

@[simp] theorem keys_cons (e : String × α) (d : Dict α) : keys (e :: d) = e.1 :: d.keys := rfl

theorem sorted_nil : Sorted ([] : Dict α) := List.Pairwise.nil

/-- A key has an entry exactly when it is among the keys. -/
theorem get?_isSome_iff (d : Dict α) (k : String) : (d.get? k).isSome ↔ k ∈ d.keys := by
  induction d with
  | nil => simp [get?]
  | cons e rest ih =>
    obtain ⟨k', v⟩ := e
    by_cases same : k' = k
    · simp [get?, same]
    · simp [get?, same, ih, Ne.symm same]

theorem contains_iff (d : Dict α) (k : String) : d.contains k = true ↔ k ∈ d.keys :=
  get?_isSome_iff d k

/-- Storing under a key adds that key and keeps the others. -/
theorem mem_keys_insert (d : Dict α) (key k : String) (v : α) :
    k ∈ (d.insert key v).keys ↔ k = key ∨ k ∈ d.keys := by
  rw [← get?_isSome_iff, ← get?_isSome_iff]
  by_cases same : k = key
  · simp [same]
  · simp [same, get?_insert_other _ _ _ _ same]

/-- Storing an entry keeps the keys strictly ascending: it walks past the smaller keys and stops
at the first key not smaller. -/
theorem Sorted.insert {d : Dict α} (sorted : d.Sorted) (key : String) (v : α) :
    (d.insert key v).Sorted := by
  induction d with
  | nil => exact List.pairwise_singleton _ _
  | cons e rest ih =>
    obtain ⟨k, w⟩ := e
    have head := List.pairwise_cons.1 sorted
    unfold Sorted at head ⊢
    simp only [Dict.insert]
    by_cases same : key = k
    · -- The entry of the key is replaced in place.
      simp only [same, if_true, keys_cons]
      exact sorted
    by_cases before : key < k
    · -- The new key goes first, below the old first key and so below all the others.
      simp only [same, before, if_false, if_true, keys_cons]
      refine List.Pairwise.cons (fun x hx => ?_) sorted
      rcases List.mem_cons.1 hx with rfl | later
      · exact before
      · exact before.trans (head.1 x later)
    · -- The new key is above the first key, which stays first.
      simp only [same, before, if_false, keys_cons]
      refine List.Pairwise.cons (fun x hx => ?_) (ih head.2)
      rcases (mem_keys_insert rest key x v).1 hx with rfl | old
      · exact lt_of_le_of_ne (not_lt.1 before) (Ne.symm same)
      · exact head.1 x old

theorem Sorted.insertAll {d : Dict α} (sorted : d.Sorted) (entries : List (String × α)) :
    (d.insertAll entries).Sorted := by
  induction entries generalizing d with
  | nil => exact sorted
  | cons e rest ih => exact ih (sorted.insert e.1 e.2)

/-- Storing a key above every key present puts its entry last. -/
theorem insert_of_lt {d : Dict α} {key : String} (above : ∀ k ∈ d.keys, k < key) (v : α) :
    d.insert key v = d ++ [(key, v)] := by
  induction d with
  | nil => rfl
  | cons e rest ih =>
    obtain ⟨k, w⟩ := e
    have below : k < key := above k List.mem_cons_self
    simp only [Dict.insert, (ne_of_lt below).symm, not_lt.2 below.le, if_false, List.cons_append]
    rw [ih (fun k' hk' => above k' (List.mem_cons_of_mem k hk'))]

/-- Storing entries whose keys continue the keys present in strictly ascending order appends them. -/
theorem insertAll_of_sorted {d : Dict α} {entries : List (String × α)} (sorted : (d ++ entries).Sorted) :
    d.insertAll entries = d ++ entries := by
  induction entries generalizing d with
  | nil => simp
  | cons e rest ih =>
    -- Every key present lies below the next entry's key, so that entry goes last.
    have parts : (d.keys ++ e.1 :: keys rest).Pairwise (· < ·) := by
      simpa [Sorted, keys] using sorted
    have above : ∀ k ∈ d.keys, k < e.1 := fun k hk =>
      (List.pairwise_append.1 parts).2.2 k hk e.1 List.mem_cons_self
    rw [insertAll_cons, insert_of_lt above, ih (by simpa using sorted)]
    simp

theorem Sorted.nodup {d : Dict α} (sorted : d.Sorted) : d.keys.Nodup :=
  sorted.imp (fun lt => ne_of_lt lt)

/-- The keys of a sorted map are its key set in ascending order. -/
theorem Sorted.keys_eq_sort {d : Dict α} (sorted : d.Sorted) :
    d.keys = d.keys.toFinset.sort (· ≤ ·) :=
  ((List.toFinset_sort (· ≤ ·) sorted.nodup).2 (sorted.imp le_of_lt)).symm

/-- After storing entries, a key is among the keys if it was before or some entry has it. -/
theorem mem_keys_insertAll (d : Dict α) (entries : List (String × α)) (k : String) :
    k ∈ (d.insertAll entries).keys ↔ k ∈ entries.map Prod.fst ∨ k ∈ d.keys := by
  induction entries generalizing d with
  | nil => simp
  | cons e rest ih =>
    rw [insertAll_cons, ih, mem_keys_insert]
    simp only [List.map_cons, List.mem_cons]
    tauto

/-- After storing entries, a key reads as the latest entry stored under it, else as before. -/
theorem get?_insertAll (d : Dict α) (entries : List (String × α)) (k : String) :
    (d.insertAll entries).get? k = (entries.reverse.lookup k).or (d.get? k) := by
  induction entries generalizing d with
  | nil => simp
  | cons e rest ih =>
    obtain ⟨key, v⟩ := e
    rw [insertAll_cons, ih, List.reverse_cons, List.lookup_append, Option.or_assoc]
    congr 1
    -- Only an entry of the key itself changes what the key reads.
    by_cases same : k = key
    · simp [same]
    · rw [get?_insert_other _ _ _ _ same, List.lookup_cons, beq_false_of_ne same]
      rfl

end Dict

end ViewEngine
