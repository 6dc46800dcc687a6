import ViewEngine.Value.Show
import ViewEngine.Script
import ViewEngine.Number.Read
import ViewEngine.Text.Case
import ViewEngine.Text.Utf8

/-!
Decoding props into typed records, converting weakly: numbers, truth values and texts convert into
one another where the text reads as the target, a single value lifts into a list, and an empty
mapping counts as an empty list. A field takes the prop of its name, or else one whose name equals
it ignoring case. Each field that fails adds a message, and the other fields are still decoded.
-/

namespace ViewEngine

open Number

/-- The name of the type of a scalar target. -/
def Shape.typeName : Shape → String
  | .bool => "bool"
  | .text => "string"
  | .int k => k.name
  | .float64 => "float64"
  | .float32 => "float32"
  | _ => "interface {}"

/-- The kind of a value: its basic form, as named in messages about mappings. -/
def Value.kindName : Value → String
  | .null => "invalid"
  | .bool _ => "bool"
  | .str _ => "string"
  | .f64 _ => "float64"
  | .f32 _ => "float32"
  | .int k _ => k.name
  | .bytes _ | .list _ | .node _ | .texts _ | .ints _ => "slice"
  | .props _ | .map _ | .textMap _ | .anyMap _ => "map"
  | .error _ | .stringer _ | .moment _ => "struct"
  | .component _ _ | .routine _ => "func"

/-- The type of the value a reference-typed value points to (an error value is a reference). -/
def Value.targetTypeName : Value → String
  | .error _ => "errors.errorString"
  | v => v.typeName

/-- The message for a value that does not convert to a scalar target. -/
def unconvertible (name : String) (target : Shape) (v : Value) : String :=
  "'" ++ name ++ "' expected type '" ++ target.typeName ++ "', got unconvertible type '" ++
    v.targetTypeName ++ "', value: '" ++ v.show ++ "'"

/-- The message for a text that does not read as the target. -/
def unreadable (name what : String) (reader input : String) (cause : ReadError) : String :=
  "cannot parse '" ++ name ++ "' as " ++ what ++ ": " ++ (ReadFailure.mk reader input cause).message

/-- The integer part of a 64-bit value as a signed 64-bit integer; values out of range and NaN
give the least one. -/
def Number.Binary64.toInt64 (x : Binary64) : Int :=
  match x.read.truncate with
  | some n => if n < -(Nat.pow 2 63 : Nat) || n ≥ (Nat.pow 2 63 : Nat) then -(Nat.pow 2 63 : Nat) else n
  | none => -(Nat.pow 2 63 : Nat)

/-- The integer part of a 64-bit value as an unsigned 64-bit integer: below 2^63 through the signed
conversion, from 2^63 on by taking 2^63 off first; out of range and NaN give 2^63. -/
def Number.Binary64.toUInt64 (x : Binary64) : Nat :=
  let top : Int := (Nat.pow 2 63 : Nat)
  match x.read.truncate with
  | some n =>
    if n < top then (IntKind.uint64.wrap (if n < -top then -top else n)).toNat
    else if n - top < top then (n - top + top).toNat
    else (Nat.pow 2 63 : Nat)
  | none => (Nat.pow 2 63 : Nat)

/-- The number a value stands for, by kind: signed integer, unsigned integer, or float. -/
inductive Numeric where
  | signed (n : Int)
  | unsigned (n : Nat)
  | float (x : Binary64)

/-- The number a numeric value stands for. -/
def Value.numeric? : Value → Option Numeric
  | .int k n => some (if k.signed then .signed n else .unsigned n.toNat)
  | .f64 x => some (.float x)
  | .f32 x => some (.float x.toBinary64)
  | _ => none

/-- Whether a value is a mapping (so it decodes into a record). -/
def Value.mapFields? : Value → Option (List (String × Value))
  | .props p => some (p.getD [])
  | .map p => some (p.getD [])
  | .textMap fields => some (fields.map (fun f => (f.1, Value.str f.2)))
  | .anyMap entries => some (entries.map (fun e => (e.1.show, e.2)))
  | _ => none

/-- The items of a list-like value. -/
def Value.listItems? : Value → Option (List Value)
  | .list items => some items
  | .node items => some items
  | .texts items => some (items.map Value.str)
  | .ints items => some (items.map (Value.int .int))
  | .bytes data => some (data.map (fun b => Value.int .uint8 b.toNat))
  | _ => none

/-- Whether a list-like value is absent (a nil list); only lists read from data can be. -/
def Value.isAbsentList : Value → Bool
  | _ => false

/-- Decodes a scalar. -/
def decodeScalar (name : String) (target : Shape) (v : Value) : Except String Decoded :=
  match target with
  | .text =>
    match v with
    | .str s => .ok (.text s)
    | .bool b => .ok (.text (if b then "1" else "0"))
    | .int _ n => .ok (.text (toString n))
    | .f64 x => .ok (.text x.plainText)
    | .f32 x => .ok (.text x.toBinary64.plainText)
    | .bytes data => .ok (.text (Text.ofUtf8Lossy data))
    | _ => .error (unconvertible name target v)
  | .bool =>
    match v, v.numeric? with
    | .bool b, _ => .ok (.bool b)
    | _, some (.signed n) => .ok (.bool (n != 0))
    | _, some (.unsigned n) => .ok (.bool (n != 0))
    | _, some (.float x) => .ok (.bool (!x.isZero))
    | .str s, _ =>
      match readBool s with
      | .ok b => .ok (.bool b)
      | .error e => if s.isEmpty then .ok (.bool false) else .error (unreadable name "bool" "ParseBool" s e)
    | _, _ => .error (unconvertible name target v)
  | .int k =>
    let store (n : Int) : Decoded := .int k (k.wrap n)
    match v, v.numeric? with
    | _, some (.signed n) => .ok (store n)
    | _, some (.unsigned n) => .ok (store n)
    | _, some (.float x) => .ok (store x.toInt64)
    | .bool b, _ => .ok (store (if b then 1 else 0))
    | .str s, _ =>
      let text := if s.isEmpty then "0" else s
      if k.signed then
        match readInt text k.bits with
        | .ok n => .ok (store n)
        | .error e => .error (unreadable name "int" "ParseInt" s e)
      else
        match readNat text k.bits with
        | .ok n => .ok (store n)
        | .error e => .error (unreadable name "uint" "ParseUint" s e)
    | _, _ => .error (unconvertible name target v)
  | .float64 | .float32 =>
    let wide := match target with | .float64 => true | _ => false
    let store (x : Binary64) : Decoded := if wide then .float64 x else .float32 x.toBinary32
    match v, v.numeric? with
    | _, some (.signed n) => .ok (store (Binary64.ofInt n))
    | _, some (.unsigned n) => .ok (store (Binary64.ofInt n))
    | _, some (.float x) => .ok (store x)
    | .bool b, _ => .ok (store (Binary64.ofInt (if b then 1 else 0)))
    | .str s, _ =>
      let text := if s.isEmpty then "0" else s
      if wide then
        match Binary64.readText text with
        | .ok x => .ok (.float64 x)
        | .error e => .error (unreadable name "float" "ParseFloat" s e)
      else
        match Binary32.readText text with
        | .ok x => .ok (.float32 x)
        | .error e => .error (unreadable name "float" "ParseFloat" s e)
    | _, _ => .error (unconvertible name target v)
  | _ => .ok (.any v)

/-- The field of a record a prop feeds: the prop of the same name, or else the first one whose
name equals it ignoring case. -/
def fieldInput? (fields : List (String × Value)) (name : String) : Option Value :=
  match fields.find? (fun f => f.1 == name) with
  | some f => some f.2
  | none => (fields.find? (fun f => Text.equalFold f.1.toList name.toList)).map Prod.snd

/-- The name of a part of a target: the part alone at the top, else joined to the whole's name. -/
def partName (whole part : String) : String := if whole.isEmpty then part else whole ++ "." ++ part

/-- Puts an entry into a mapping, replacing one of the same key. -/
def insertEntry (acc : List (String × Decoded)) (e : String × Decoded) : List (String × Decoded) :=
  if acc.any (fun a => a.1 == e.1) then acc.map (fun a => if a.1 == e.1 then e else a) else acc ++ [e]

mutual
/-- Decodes a value into a target holding `current`, returning the new contents and the
messages of the parts that failed. The absent value leaves the target as it is. -/
def decodeInto : Nat → String → Shape → Value → Decoded → Decoded × List String
  | 0, _, _, _, current => (current, [])
  | _ + 1, _, _, .null, current => (current, [])
  | fuel + 1, name, shape, v, current =>
    match shape with
    | .list elem =>
      match v.listItems? with
      | some items =>
        let (decoded, errors) := decodeItems fuel name elem 0 items
        (.list (some decoded), errors)
      | none =>
        match v.mapFields? with
        | some [] => (.list (some []), [])
        | _ =>
          -- A single value lifts into a list of one.
          let (d, errors) := decodeInto fuel (name ++ "[0]") elem v elem.zero
          (.list (some [d]), errors)
    | .map elem =>
      let existing := match current with | .map (some e) => e | _ => []
      match v.mapFields? with
      | some [] => (.map (some existing), [])
      | some fields =>
        let (entries, errors) := decodeEntries fuel name elem fields
        (.map (some (entries.foldl (fun acc e => insertEntry acc e) existing)), errors)
      | none =>
        match v.listItems? with
        | some [] => (.map (some existing), [])
        | some items => decodeMaps fuel name elem 0 items current
        | none => (current, ["'" ++ name ++ "' expected a map, got '" ++ v.kindName ++ "'"])
    | .ref target =>
      let inner := match current with | .ref (some d) => d | _ => target.zero
      let (d, errors) := decodeInto fuel name target v inner
      if errors.isEmpty then (.ref (some d), []) else (current, errors)
    | .record fields =>
      match v.mapFields? with
      | some input =>
        let existing := match current with | .record f => f | _ => Shape.zeroFields fields
        let (decoded, errors) := decodeFields fuel name fields input existing
        (.record decoded, errors)
      | none => (current, ["'" ++ name ++ "' expected a map, got '" ++ v.kindName ++ "'"])
    | .any => (.any v, [])
    | scalar =>
      match decodeScalar name scalar v with
      | .ok d => (d, [])
      | .error message => (current, [message])
termination_by fuel => (fuel, 0)

/-- Decodes list items into elements, naming each by its index. -/
def decodeItems : Nat → String → Shape → Nat → List Value → List Decoded × List String
  | _, _, _, _, [] => ([], [])
  | fuel, name, elem, i, v :: rest =>
    let (d, e1) := decodeInto fuel (name ++ "[" ++ toString i ++ "]") elem v elem.zero
    let (ds, e2) := decodeItems fuel name elem (i + 1) rest
    (d :: ds, e1 ++ e2)
termination_by fuel _ _ _ items => (fuel, items.length + 1)

/-- Decodes the entries of a mapping; a failed entry is left out. -/
def decodeEntries : Nat → String → Shape → List (String × Value) → List (String × Decoded) × List String
  | _, _, _, [] => ([], [])
  | fuel, name, elem, (k, v) :: rest =>
    let (d, e1) := decodeInto fuel (name ++ "[" ++ k ++ "]") elem v elem.zero
    let (ds, e2) := decodeEntries fuel name elem rest
    if e1.isEmpty then ((k, d) :: ds, e2) else (ds, e1 ++ e2)
termination_by fuel _ _ fields => (fuel, fields.length + 1)

/-- Decodes each mapping of a list into one mapping, stopping at the first that fails. -/
def decodeMaps : Nat → String → Shape → Nat → List Value → Decoded → Decoded × List String
  | _, _, _, _, [], current => (current, [])
  | fuel, name, elem, i, v :: rest, current =>
    let (d, errors) := decodeInto fuel (name ++ "[" ++ toString i ++ "]") (.map elem) v current
    if errors.isEmpty then decodeMaps fuel name elem (i + 1) rest d else (d, errors)
termination_by fuel _ _ _ items _ => (fuel, items.length + 1)

/-- Decodes the fields of a record from a mapping. -/
def decodeFields : Nat → String → List (String × Shape) → List (String × Value) →
    List (String × Decoded) → List (String × Decoded) × List String
  | _, _, [], _, _ => ([], [])
  | fuel, name, (field, shape) :: rest, input, existing =>
    let current := match existing.find? (fun e => e.1 == field) with
      | some e => e.2
      | none => shape.zero
    let (d, e1) := match fieldInput? input field with
      | some v => decodeInto fuel (partName name field) shape v current
      | none => (current, [])
    let (ds, e2) := decodeFields fuel name rest input existing
    ((field, d) :: ds, e1 ++ e2)
termination_by fuel _ fields _ _ => (fuel, fields.length + 1)
end

mutual
/-- How deeply a value nests. -/
def Value.depth : Value → Nat
  | .list items => Value.depthItems items + 1
  | .node items => Value.depthItems items + 1
  | .props (some fields) => Value.depthFields fields + 1
  | .map (some fields) => Value.depthFields fields + 1
  | .anyMap entries => Value.depthEntries entries + 1
  | _ => 1

/-- The deepest nesting among list items. -/
def Value.depthItems : List Value → Nat
  | [] => 0
  | v :: rest => Nat.max v.depth (Value.depthItems rest)

/-- The deepest nesting among the values of fields. -/
def Value.depthFields : List (String × Value) → Nat
  | [] => 0
  | (_, v) :: rest => Nat.max v.depth (Value.depthFields rest)

/-- The deepest nesting among the keys and values of entries. -/
def Value.depthEntries : List (Value × Value) → Nat
  | [] => 0
  | (k, v) :: rest => Nat.max (Nat.max k.depth v.depth) (Value.depthEntries rest)
end

mutual
/-- How deeply a shape nests. -/
def Shape.depth : Shape → Nat
  | .list elem => elem.depth + 1
  | .map elem => elem.depth + 1
  | .ref target => target.depth + 1
  | .record fields => Shape.depthFields fields + 1
  | _ => 1

/-- The deepest nesting among record fields. -/
def Shape.depthFields : List (String × Shape) → Nat
  | [] => 0
  | (_, s) :: rest => Nat.max s.depth (Shape.depthFields rest)
end

/-- The message for failed fields: their count, then each on its own line, sorted. -/
def decodeFailureMessage (errors : List String) : String :=
  let points := (errors.map (fun e => "* " ++ e)).mergeSort (fun a b => decide (a ≤ b))
  toString errors.length ++ " error(s) decoding:\n\n" ++ "\n".intercalate points

/-- Decodes props into a record shape, weakly: the record, and the message for the fields that
failed, if any. -/
def weakDecode : PropsDecoder := fun shape props =>
  let input := Value.props (some (props.getD []))
  let fuel := shape.depth + input.depth + 1
  let (value, errors) := decodeInto fuel "" shape input shape.zero
  (value, if errors.isEmpty then none else some (decodeFailureMessage errors))

/-- A program as the command line and the scenarios link it: props are decoded weakly. -/
def Program.linked : Program := { Program.empty with decode := weakDecode }

end ViewEngine
