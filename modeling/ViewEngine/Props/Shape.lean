import ViewEngine.Value.Basic

/-!
The targets props are decoded into and what decoding gives. A decoder is a library's: it takes a
record shape and props and gives the decoded record, whose fields that failed keep their zero value,
and its message for the failed fields. The engine reports that message under its own prefix
(`decodeProps`).
-/

namespace ViewEngine

open Number

/-- The shape of a decoding target. -/
inductive Shape where
  | bool
  | text
  | int (kind : IntKind)
  | float64
  | float32
  /-- Any value, kept as it is. -/
  | any
  /-- A list of elements. -/
  | list (elem : Shape)
  /-- A mapping from text keys. -/
  | map (elem : Shape)
  /-- A reference, absent until a value is decoded into it. -/
  | ref (target : Shape)
  /-- A record of named fields. -/
  | record (fields : List (String × Shape))
  deriving Repr, Inhabited

/-- A decoded value. -/
inductive Decoded where
  | bool (b : Bool)
  | text (s : String)
  | int (kind : IntKind) (n : Int)
  | float64 (x : Binary64)
  | float32 (x : Binary32)
  | any (v : Value)
  /-- A list; `none` is the absent list. -/
  | list (items : Option (List Decoded))
  /-- A mapping; `none` is the absent mapping. -/
  | map (entries : Option (List (String × Decoded)))
  | ref (target : Option Decoded)
  | record (fields : List (String × Decoded))
  deriving Repr, Inhabited

mutual
/-- The value a target holds before anything is decoded into it. -/
def Shape.zero : Shape → Decoded
  | .bool => .bool false
  | .text => .text ""
  | .int k => .int k 0
  | .float64 => .float64 (Binary64.zero false)
  | .float32 => .float32 (Binary64.zero false).toBinary32
  | .any => .any .null
  | .list _ => .list none
  | .map _ => .map none
  | .ref _ => .ref none
  | .record fields => .record (Shape.zeroFields fields)

/-- The zero values of record fields. -/
def Shape.zeroFields : List (String × Shape) → List (String × Decoded)
  | [] => []
  | (name, s) :: rest => (name, s.zero) :: Shape.zeroFields rest
end

/-- The fields of a decoded record. -/
def Decoded.field (d : Decoded) (name : String) : Option Decoded :=
  match d with
  | .record fields => (fields.find? (fun f => f.1 == name)).map Prod.snd
  | _ => none

/-- A decoder of props into a record shape: the decoded record, fields that failed keeping their
zero value, and the message for the failed fields, if any. -/
abbrev PropsDecoder := Shape → Props → Decoded × Option String

/-- The decoder that decodes nothing: every field keeps its zero value. -/
def PropsDecoder.zero : PropsDecoder := fun shape _ => (shape.zero, none)

/-- The outcome of decoding props into a record: the record's contents, and the failure message
when some fields failed. -/
structure DecodeOutcome where
  /-- The decoded record (fields that failed keep their zero value). -/
  value : Decoded
  /-- The message listing the failures, if any. -/
  failure : Option String

/-- Decodes props into a record shape with a decoder, reporting its failure message under the
engine's prefix. -/
def decodeProps (decode : PropsDecoder) (shape : Shape) (props : Props) : DecodeOutcome :=
  ⟨(decode shape props).1, (decode shape props).2.map ("rigor: decode props: " ++ ·)⟩

@[simp] theorem decodeProps_value (decode : PropsDecoder) (shape : Shape) (props : Props) :
    (decodeProps decode shape props).value = (decode shape props).1 := rfl

@[simp] theorem decodeProps_failure (decode : PropsDecoder) (shape : Shape) (props : Props) :
    (decodeProps decode shape props).failure = (decode shape props).2.map ("rigor: decode props: " ++ ·) := rfl

end ViewEngine
