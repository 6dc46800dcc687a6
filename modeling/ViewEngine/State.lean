import ViewEngine.Value.Basic

/-!
State records: named fields created from an initial mapping. The initial fields come sorted by
name; fields set later follow in the order they were first set. Reading an unknown field gives the
absent value.
-/

namespace ViewEngine

/-- A state record. -/
structure StateRecord where
  /-- The field names: the initial ones sorted, then new ones in order of first setting. -/
  keys : List String
  /-- The values of the fields. -/
  values : Dict Value
  deriving Inhabited

namespace StateRecord

/-- A record holding the fields of a mapping (none for an absent one). -/
def ofFields (init : Option (List (String × Value))) : StateRecord :=
  let values := Dict.ofList (init.getD [])
  ⟨values.keys, values⟩

/-- The value of a field, if it exists. -/
def lookup (s : StateRecord) (key : String) : Option Value := s.values.get? key

/-- The value of a field, absent when unknown. -/
def get (s : StateRecord) (key : String) : Value := (s.lookup key).getD .null

/-- Sets a field, adding it after the others when new. -/
def set (s : StateRecord) (key : String) (v : Value) : StateRecord :=
  { keys := if s.values.contains key then s.keys else s.keys ++ [key]
    values := s.values.insert key v }

/-- A copy of all fields, as a mapping. -/
def snapshot (s : StateRecord) : List (String × Value) := s.values

theorem keys_set_new (s : StateRecord) (key : String) (v : Value) (fresh : s.values.contains key = false) :
    (s.set key v).keys = s.keys ++ [key] := by
  -- A field that did not exist is added after the others.
  simp [set, fresh]

end StateRecord

end ViewEngine
