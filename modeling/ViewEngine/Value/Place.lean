import ViewEngine.Value.Basic

/-!
The places a decoded document is stored into: a dynamic value, a text, a truth value, or a record
with named fields. Decoding a record writes its fields one by one, each as an update with its path
from the root record.
-/

namespace ViewEngine

/-- The places a decoded value is stored into. -/
inductive Place where
  /-- A dynamic value. -/
  | any
  /-- A text. -/
  | text
  /-- A truth value. -/
  | flag
  /-- A record of the type named, with its fields' names and shapes. -/
  | record (typeName : String) (fields : List (String × Place))

/-- The type name of a place, as messages name it. -/
def Place.typeName : Place → String
  | .any => "interface {}"
  | .text => "string"
  | .flag => "bool"
  | .record name _ => name

/-- A field of a record set by decoding: its path from the root record, and its value. -/
abbrev Update := List String × Value

end ViewEngine
