/-! Finite maps from text keys, kept as association lists in ascending key order. -/

namespace ViewEngine

/-- A finite map from text keys; entries are kept in ascending key order, each key once. -/
abbrev Dict (α : Type) := List (String × α)

namespace Dict

variable {α β : Type}

/-- The map with no entries. -/
def empty : Dict α := []

/-- The value stored under a key, if any. -/
def get? (d : Dict α) (key : String) : Option α :=
  match d with
  | [] => none
  | (k, v) :: rest => if k = key then some v else get? rest key

/-- Whether a key has an entry. -/
def contains (d : Dict α) (key : String) : Bool :=
  (d.get? key).isSome

/-- Stores a value under a key, replacing an earlier one and keeping the key order. -/
def insert (d : Dict α) (key : String) (value : α) : Dict α :=
  match d with
  | [] => [(key, value)]
  | (k, v) :: rest =>
    if key = k then (key, value) :: rest
    else if key < k then (key, value) :: (k, v) :: rest
    else (k, v) :: insert rest key value

/-- Removes the entry of a key, if there is one. -/
def erase (d : Dict α) (key : String) : Dict α :=
  d.filter (fun entry => entry.1 ≠ key)

/-- Builds a map from entries in any order; of two entries with one key the later wins. -/
def ofList (entries : List (String × α)) : Dict α :=
  entries.foldl (fun d entry => d.insert entry.1 entry.2) []

/-- Stores entries one after another; a later entry of a key replaces an earlier one. -/
def insertAll (d : Dict α) (entries : List (String × α)) : Dict α :=
  entries.foldl (fun d entry => d.insert entry.1 entry.2) d

/-- The keys in ascending order. -/
def keys (d : Dict α) : List String :=
  d.map Prod.fst

/-- Applies a function to every value. -/
def mapValues (f : α → β) (d : Dict α) : Dict β :=
  d.map (fun entry => (entry.1, f entry.2))

/-- Looking up the key just stored gives the stored value. -/
@[simp] theorem get?_insert_self (d : Dict α) (key : String) (value : α) :
    (d.insert key value).get? key = some value := by
  -- Insertion walks past smaller keys and then stops at the position of the key.
  induction d with
  | nil => simp [insert, get?]
  | cons entry rest ih =>
    obtain ⟨k, v⟩ := entry
    simp only [insert]
    by_cases same : key = k
    · simp [same, get?]
    · by_cases before : key < k
      · simp [same, before, get?]
      · simp [same, before, get?, ih, Ne.symm same]

/-- Storing under one key leaves every other key's value alone. -/
theorem get?_insert_other (d : Dict α) (key other : String) (value : α) (apart : other ≠ key) :
    (d.insert key value).get? other = d.get? other := by
  -- The only entry that insertion touches is the one of the stored key.
  have distinct : key ≠ other := Ne.symm apart
  induction d with
  | nil => simp [insert, get?, distinct]
  | cons entry rest ih =>
    obtain ⟨k, v⟩ := entry
    simp only [insert]
    by_cases same : key = k
    · subst same; simp [get?, distinct]
    · by_cases before : key < k
      · simp [same, before, get?, distinct]
      · simp [same, before, get?, ih]

end Dict

end ViewEngine
