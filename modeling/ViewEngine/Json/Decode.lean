import ViewEngine.Json.Read
import ViewEngine.Value.Place
import ViewEngine.Number.Read
import ViewEngine.Text.Case
import ViewEngine.Data.Dict

/-!
Storing a JSON document into a place: a dynamic value (objects become mappings from text, the
later of two equal keys winning, and numbers 64-bit floats), or a record whose fields are matched
by name, exactly or else ignoring case. A value of the wrong kind for its place is skipped and
decoding goes on; the first such mismatch is the one reported, naming the field's path.
-/

namespace ViewEngine

namespace Json

open Number

/-- The word for a JSON value's kind in messages. -/
def kindWord : Json → String
  | .null => "null"
  | .bool _ => "bool"
  | .num _ => "number"
  | .str _ => "string"
  | .arr _ => "array"
  | .obj _ => "object"

/-- A key as compared ignoring case: ASCII letters in upper case, other letters through their
lower and then upper case. -/
def foldKey (s : String) : List Char :=
  s.toList.map fun c => if c.toNat < 128 then c.toUpper else Text.upperCase (Text.lowerCase c)

/-- The field a key names: the one of exactly that name, else the first whose name matches
ignoring case. -/
def fieldFor (fields : List (String × Place)) (key : String) : Option (String × Place) :=
  match fields.find? (fun f => f.1 == key) with
  | some f => some f
  | none => fields.find? (fun f => foldKey f.1 == foldKey key)

/-- The short name of a type: what follows its package's dot. -/
def shortTypeName (name : String) : String :=
  match name.splitOn "." with
  | [_, short] => short
  | _ => name

/-- Where in a record a value goes, for messages: the innermost record's type and the names of
the fields on the way. -/
structure FieldContext where
  record : String
  path : List String

/-- The message of a value of a kind stored into a place of a type. -/
def mismatchMessage (kind typeName : String) (context : Option FieldContext) : String :=
  match context with
  | some c =>
    "json: cannot unmarshal " ++ kind ++ " into Go struct field " ++ c.record ++ "." ++
      ".".intercalate c.path ++ " of type " ++ typeName
  | none => "json: cannot unmarshal " ++ kind ++ " into Go value of type " ++ typeName

/-- The state of storing a document into a record: the fields written and the first mismatch. -/
structure Storing where
  updates : Array Update := #[]
  fault : Option String := none

/-- Notes a mismatch unless an earlier one is noted. -/
def noteFault (message : String) : StateM Storing Unit :=
  modify fun s => if s.fault.isSome then s else { s with fault := some message }

/-- Stores a value into a place; a record's fields are written under `path`. A null
leaves any place as it is. -/
def storeInto : Nat → Place → List String → Option FieldContext → Json → StateM Storing Unit
  | 0, _, _, _, _ => pure ()
  | fuel + 1, place, path, context, j =>
    match j, place with
    | .null, _ => pure ()
    | .str s, .text => modify fun st => { st with updates := st.updates.push (path, .str s) }
    | .bool b, .flag => modify fun st => { st with updates := st.updates.push (path, .bool b) }
    | .obj members, .record name fields => do
      for (key, v) in members do
        match fieldFor fields key with
        | none => pure ()
        | some (fieldName, fieldPlace) =>
          let inner : FieldContext :=
            ⟨shortTypeName name, (context.map FieldContext.path).getD [] ++ [fieldName]⟩
          storeInto fuel fieldPlace (path ++ [fieldName]) (some inner) v
    | j, place => noteFault (mismatchMessage (kindWord j) place.typeName context)

/-- How deep a document nests, plus one. -/
def depth : Json → Nat
  | .arr items => 1 + (items.attach.map fun ⟨x, _⟩ => depth x).foldl max 0
  | .obj members => 1 + (members.attach.map fun ⟨m, _⟩ => depth m.2).foldl max 0
  | _ => 1
termination_by j => sizeOf j
decreasing_by
  all_goals simp_wf
  · have := List.sizeOf_lt_of_mem ‹_ ∈ items›
    omega
  · have := List.sizeOf_lt_of_mem ‹_ ∈ members›
    cases m
    simp_all
    omega

/-- Stores a document into a record or another place: the fields written and the first mismatch. -/
def store (place : Place) (j : Json) : Array Update × Option String :=
  let (_, st) := (storeInto (depth j + 1) place [] none j).run {}
  (st.updates, st.fault)

/-- A document as a dynamic value: objects become mappings from text (the later of two equal keys
wins), arrays lists, numbers 64-bit floats. A number beyond the float range becomes the absent
value, and the first such number is reported. -/
def toValue : Nat → Json → StateM (Option String) Value
  | 0, _ => pure .null
  | fuel + 1, j =>
    match j with
    | .null => pure .null
    | .bool b => pure (.bool b)
    | .str s => pure (.str s)
    | .num literal =>
      match Binary64.readText literal with
      | .ok x => pure (.f64 x)
      | .error _ => do
        modify fun f => f.orElse fun _ =>
          some ("json: cannot unmarshal number " ++ literal ++ " into Go value of type float64")
        pure .null
    | .arr items => do
      let mut out : Array Value := #[]
      for item in items do
        out := out.push (← toValue fuel item)
      pure (.list out.toList)
    | .obj members => do
      let mut out : List (String × Value) := []
      for (k, v) in members do
        out := Dict.insert out k (← toValue fuel v)
      pure (.map (some out))

/-- Reads a JSON text as a dynamic value, or the message of its syntax error or first number
beyond the float range. -/
def readDynamic (text : String) : Except String Value :=
  match parse text with
  | .error e => .error e.message
  | .ok j =>
    match (toValue (depth j + 1) j).run none with
    | (_, some message) => .error message
    | (v, none) => .ok v

end Json

end ViewEngine
