import ViewEngine.Data.Bytes
import ViewEngine.Value.Show

/-!
Packing values as MessagePack: texts as `str`, byte strings as `bin`, lists as arrays, mappings as
maps with their keys in increasing order, 64-bit floats as `float 64`. Plain integers take the
fewest bytes that hold them; integers of a fixed width keep their width. Functions and components
cannot be packed.
-/

namespace ViewEngine.MessagePack

open Number

/-- Why a value cannot be packed. -/
inductive PackError where
  /-- A value of a type that has no packed form, named by the type. -/
  | unsupported (typeName : String)
  deriving DecidableEq, Repr

/-- The text of a packing error. -/
def PackError.message : PackError → String
  | .unsupported t => "msgpack: Encode(unsupported " ++ t ++ ")"

/-- A length header: one byte `fixBase + n` below `fixLimit`, else the first of `codes` whose
width holds `n`, followed by `n` in that width. -/
def lengthHeader (fixBase fixLimit : Nat) (codes : List (UInt8 × Nat)) (n : Nat) : Bytes :=
  if n < fixLimit then [(fixBase + n).toUInt8]
  else
    match codes.find? (fun cw => n < Nat.pow 256 cw.2) with
    | some (code, width) => code :: Bytes.ofNat width n
    | none => [0xc0]

/-- The header of a text of `n` bytes. -/
def textHeader (n : Nat) : Bytes := lengthHeader 0xa0 32 [(0xd9, 1), (0xda, 2), (0xdb, 4)] n

/-- The header of a byte string of `n` bytes. -/
def binaryHeader (n : Nat) : Bytes := lengthHeader 0 0 [(0xc4, 1), (0xc5, 2), (0xc6, 4)] n

/-- The header of an array of `n` items. -/
def arrayHeader (n : Nat) : Bytes := lengthHeader 0x90 16 [(0xdc, 2), (0xdd, 4)] n

/-- The header of a map of `n` entries. -/
def mapHeader (n : Nat) : Bytes := lengthHeader 0x80 16 [(0xde, 2), (0xdf, 4)] n

/-- A packed text: its UTF-8 bytes after their header. -/
def packText (s : String) : Bytes :=
  let bytes := s.toUTF8.toList
  textHeader bytes.length ++ bytes

/-- A non-negative integer in the fewest bytes: a positive fixnum up to 127, else `uint 8`, `16`,
`32` or `64`. -/
def packUnsigned (n : Nat) : Bytes :=
  if n ≤ 127 then [n.toUInt8]
  else if n < Nat.pow 2 8 then 0xcc :: Bytes.ofNat 1 n
  else if n < Nat.pow 2 16 then 0xcd :: Bytes.ofNat 2 n
  else if n < Nat.pow 2 32 then 0xce :: Bytes.ofNat 4 n
  else 0xcf :: Bytes.ofNat 8 n

/-- The two's-complement bytes of an integer in a width. -/
def twosComplement (width : Nat) (n : Int) : Bytes := Bytes.ofNat width (n % (Nat.pow 2 (8 * width) : Nat)).toNat

/-- An integer in the fewest bytes: non-negative ones as unsigned, a negative fixnum down to -32,
else `int 8`, `16`, `32` or `64`. -/
def packSigned (n : Int) : Bytes :=
  if n ≥ 0 then packUnsigned n.toNat
  else if n ≥ -32 then twosComplement 1 n
  else if n ≥ -(Nat.pow 2 7) then 0xd0 :: twosComplement 1 n
  else if n ≥ -(Nat.pow 2 15) then 0xd1 :: twosComplement 2 n
  else if n ≥ -(Nat.pow 2 31) then 0xd2 :: twosComplement 4 n
  else 0xd3 :: twosComplement 8 n

/-- An integer of a kind: plain integers compactly, the others in their own width. -/
def packInt (k : IntKind) (n : Int) : Bytes :=
  match k with
  | .int => packSigned n
  | .uint => packUnsigned n.toNat
  | .int8 => 0xd0 :: twosComplement 1 n
  | .int16 => 0xd1 :: twosComplement 2 n
  | .int32 => 0xd2 :: twosComplement 4 n
  | .int64 => 0xd3 :: twosComplement 8 n
  | .uint8 => 0xcc :: Bytes.ofNat 1 n.toNat
  | .uint16 => 0xcd :: Bytes.ofNat 2 n.toNat
  | .uint32 => 0xce :: Bytes.ofNat 4 n.toNat
  | .uint64 => 0xcf :: Bytes.ofNat 8 n.toNat

/-- Concatenates packed parts, or gives the first error among them. -/
def joinParts : List (Except PackError Bytes) → Except PackError Bytes
  | [] => .ok []
  | .error e :: _ => .error e
  | .ok b :: rest => (joinParts rest).map (b ++ ·)

/-- Packs map entries whose values are packed already, in increasing order of their keys. -/
def packEntries (entries : List (String × Except PackError Bytes)) : Except PackError Bytes :=
  let sorted := entries.mergeSort (fun a b => decide (a.1 ≤ b.1))
  (joinParts (sorted.map (fun e => e.2.map (packText e.1 ++ ·)))).map (mapHeader entries.length ++ ·)

mutual
/-- The packed form of a value. -/
def pack : Value → Except PackError Bytes
  | .null => .ok [0xc0]
  | .bool b => .ok [if b then 0xc3 else 0xc2]
  | .str s => .ok (packText s)
  | .f64 x => .ok (0xcb :: Bytes.ofNat 8 x.bits.toNat)
  | .f32 x => .ok (0xca :: Bytes.ofNat 4 x.bits.toNat)
  | .int k n => .ok (packInt k n)
  | .bytes data => .ok (binaryHeader data.length ++ data)
  | .list items => (joinParts (packItems items)).map (arrayHeader items.length ++ ·)
  | .node items => (joinParts (packItems items)).map (arrayHeader items.length ++ ·)
  | .props none | .map none => .ok [0xc0]
  | .props (some fields) | .map (some fields) => packEntries (packFields fields)
  | .textMap fields => packEntries (fields.map (fun f => (f.1, .ok (packText f.2))))
  | .texts items => .ok (arrayHeader items.length ++ items.flatMap packText)
  | .ints items => .ok (arrayHeader items.length ++ items.flatMap packSigned)
  | .anyMap entries =>
    (joinParts (packPairs entries)).map (mapHeader entries.length ++ ·)
  | .error _ => .ok (mapHeader 0)
  | .stringer shown => .ok (packText shown)
  | .moment shown => .ok (packText shown)
  | v@(.component _ _) => .error (.unsupported v.typeName)
  | v@(.routine _) => .error (.unsupported v.typeName)

/-- The packed items of a list, one part each. -/
def packItems : List Value → List (Except PackError Bytes)
  | [] => []
  | v :: rest => pack v :: packItems rest

/-- The packed values of mapping fields, keyed by their names. -/
def packFields : List (String × Value) → List (String × Except PackError Bytes)
  | [] => []
  | (k, v) :: rest => (k, pack v) :: packFields rest

/-- The packed keys and values of a mapping with keys of any kind, in their order. -/
def packPairs : List (Value × Value) → List (Except PackError Bytes)
  | [] => []
  | (k, v) :: rest => pack k :: pack v :: packPairs rest
end

/-- Whether a value counts as empty, and is left out where empty fields are omitted: the absent
value, `false`, zero, and empty texts, lists and mappings. -/
def isEmpty : Value → Bool
  | .null | .props none | .map none => true
  | .bool b => !b
  | .str s => s.isEmpty
  | .f64 x => x.isZero
  | .f32 x => x.bits &&& 0x7fffffff == 0
  | .int _ n => n == 0
  | .bytes data => data.isEmpty
  | .list items | .node items => items.isEmpty
  | .props (some fields) | .map (some fields) => fields.isEmpty
  | .textMap fields => fields.isEmpty
  | .texts items => items.isEmpty
  | .ints items => items.isEmpty
  | .anyMap entries => entries.isEmpty
  | .stringer shown => shown.isEmpty
  | _ => false

/-- A message on the wire between hosts: where it comes from, its topic and its data. -/
structure Envelope where
  origin : String
  topic : String
  data : Value
  deriving Inhabited

/-- An envelope packed as a map of `o`, `t` and, unless it is empty, `d`. -/
def Envelope.pack (e : Envelope) : Except PackError Bytes :=
  let head := packText "o" ++ packText e.origin ++ packText "t" ++ packText e.topic
  if isEmpty e.data then .ok (mapHeader 2 ++ head)
  else (MessagePack.pack e.data).map (fun d => mapHeader 3 ++ head ++ packText "d" ++ d)

end ViewEngine.MessagePack
