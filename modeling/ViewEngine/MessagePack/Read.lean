import ViewEngine.MessagePack.Write
import ViewEngine.Text.Utf8
import ViewEngine.Data.Dict
import ViewEngine.Text.Quote

/-!
Unpacking MessagePack into values, texts and envelopes. Integers come back with the kind their
code names (a fixnum as an 8-bit integer), floats with their width, maps as mappings from text.
Bytes after the first value are ignored.
-/

namespace ViewEngine.MessagePack

open Number

/-- Why bytes do not unpack. -/
inductive ReadFault where
  /-- The input ended where a value was due. -/
  | endOfInput
  /-- The input ended inside a value. -/
  | truncated
  /-- A code that cannot start what was due, which is named. -/
  | unexpectedCode (code : UInt8) (due : String)
  /-- A code that is no length of what was due, which is named. -/
  | invalidCode (code : UInt8) (due : String)
  /-- A code that starts no value; `due` names what was being read, if anything. -/
  | unknownCode (code : UInt8) (due : Option String)
  /-- An extension type that has no reader. -/
  | unknownExtension (id : Int)
  /-- An array-form record of the wrong number of fields. -/
  | fieldCount
  deriving DecidableEq, Repr

/-- A code as lower-case hexadecimal digits without leading zeros. -/
def codeText (c : UInt8) : String := String.ofList (Nat.toDigits 16 c.toNat)

/-- The text of a fault. -/
def ReadFault.message : ReadFault → String
  | .endOfInput => "EOF"
  | .truncated => "unexpected EOF"
  | .unexpectedCode c due => "msgpack: unexpected code=" ++ codeText c ++ " decoding " ++ due
  | .invalidCode c due => "msgpack: invalid code=" ++ codeText c ++ " decoding " ++ due
  | .unknownCode c none => "msgpack: unknown code " ++ codeText c
  | .unknownCode c (some due) => "msgpack: unknown code " ++ codeText c ++ " decoding " ++ due
  | .unknownExtension id => "msgpack: unknown ext id=" ++ toString id
  | .fieldCount => "msgpack: number of fields in array-encoded struct has changed"

/-- Reading from the bytes not yet read. -/
abbrev Reader := StateT Bytes (Except ReadFault)

/-- The next byte. -/
def byte : Reader UInt8 := do
  match ← get with
  | [] => throw .endOfInput
  | b :: rest => set rest; pure b

/-- The next `n` bytes: none left is the end of input, fewer than `n` a truncation. -/
def take (n : Nat) : Reader Bytes := do
  let src ← get
  if n == 0 then pure []
  else if src.isEmpty then throw .endOfInput
  else if src.length < n then throw .truncated
  else
    set (src.drop n)
    pure (src.take n)

/-- The next `n` bytes as a big-endian number. -/
def number (n : Nat) : Reader Nat := do pure (Bytes.toNat (← take n))

/-- The next `n` bytes as a big-endian two's-complement number. -/
def signedNumber (n : Nat) : Reader Int := do
  let v ← number n
  pure (if v ≥ Nat.pow 2 (8 * n - 1) then (v : Int) - (Nat.pow 2 (8 * n) : Nat) else v)

/-- Whether a code lies in a range. -/
def within (c : UInt8) (lo hi : UInt8) : Bool := lo ≤ c && c ≤ hi

/-- The length after a text or byte-string code; `none` for nil. -/
def textLength (c : UInt8) : Reader (Option Nat) :=
  if c == 0xc0 then pure none
  else if within c 0xa0 0xbf then pure (some (c - 0xa0).toNat)
  else if c == 0xd9 || c == 0xc4 then some <$> number 1
  else if c == 0xda || c == 0xc5 then some <$> number 2
  else if c == 0xdb || c == 0xc6 then some <$> number 4
  else throw (.invalidCode c "string/bytes length")

/-- The length after a map code; `none` for nil. -/
def mapLength (c : UInt8) : Reader (Option Nat) :=
  if c == 0xc0 then pure none
  else if within c 0x80 0x8f then pure (some (c - 0x80).toNat)
  else if c == 0xde then some <$> number 2
  else if c == 0xdf then some <$> number 4
  else throw (.unexpectedCode c "map length")

/-- The length after an array code; `none` for nil. -/
def arrayLength (c : UInt8) : Reader (Option Nat) :=
  if c == 0xc0 then pure none
  else if within c 0x90 0x9f then pure (some (c - 0x90).toNat)
  else if c == 0xdc then some <$> number 2
  else if c == 0xdd then some <$> number 4
  else throw (.invalidCode c "array length")

/-- The bytes of a text after its code, each invalid UTF-8 byte read as U+FFFD; nil is empty. -/
def textAfter (c : UInt8) : Reader String := do
  match ← textLength c with
  | none => pure ""
  | some n => pure (Text.ofUtf8Lossy (← take n))

/-- A text (or byte string, or nil as the empty text). -/
def text : Reader String := do textAfter (← byte)

/-- The length of an extension's data after its code. -/
def extensionLength (c : UInt8) : Reader Nat :=
  match c with
  | 0xd4 => pure 1
  | 0xd5 => pure 2
  | 0xd6 => pure 4
  | 0xd7 => pure 8
  | 0xd8 => pure 16
  | 0xc7 => number 1
  | 0xc8 => number 2
  | _ => number 4

/-- Whether a code starts an extension. -/
def isExtension (c : UInt8) : Bool := within c 0xd4 0xd8 || within c 0xc7 0xc9

mutual
/-- A value of any type; `fuel` bounds the nesting and is never used up when it exceeds twice
the input's length. -/
def value : Nat → Reader Value
  | 0 => throw .endOfInput
  | fuel + 1 => do
    let c ← byte
    if c ≤ 0x7f then pure (.int .int8 c.toNat)
    else if c ≥ 0xe0 then pure (.int .int8 ((c.toNat : Int) - 256))
    else if within c 0x80 0x8f || c == 0xde || c == 0xdf then mapping fuel c
    else if within c 0x90 0x9f || c == 0xdc || c == 0xdd then
      match ← arrayLength c with
      | none => pure .null
      | some n => pure (.list (← items fuel n))
    else if within c 0xa0 0xbf || within c 0xd9 0xdb then pure (.str (← textAfter c))
    else if within c 0xc4 0xc6 then
      match ← textLength c with
      | none => pure .null
      | some n => pure (.bytes (← take n))
    else if isExtension c then do
      let _ ← extensionLength c
      let id ← signedNumber 1
      throw (.unknownExtension id)
    else
      match c with
      | 0xc0 => pure .null
      | 0xc2 => pure (.bool false)
      | 0xc3 => pure (.bool true)
      | 0xca => pure (.f32 ⟨(← number 4).toUInt32⟩)
      | 0xcb => pure (.f64 ⟨(← number 8).toUInt64⟩)
      | 0xcc => pure (.int .uint8 (← number 1))
      | 0xcd => pure (.int .uint16 (← number 2))
      | 0xce => pure (.int .uint32 (← number 4))
      | 0xcf => pure (.int .uint64 (← number 8))
      | 0xd0 => pure (.int .int8 (← signedNumber 1))
      | 0xd1 => pure (.int .int16 (← signedNumber 2))
      | 0xd2 => pure (.int .int32 (← signedNumber 4))
      | 0xd3 => pure (.int .int64 (← signedNumber 8))
      | _ => throw (.unknownCode c (some "interface\x7b\x7d"))

/-- A map after its code, as a mapping from text; a later key replaces an earlier one. -/
def mapping : Nat → UInt8 → Reader Value
  | 0, _ => throw .endOfInput
  | fuel + 1, c => do
    match ← mapLength c with
    | none => pure (.map none)
    | some n => pure (.map (some (Dict.ofList (← entries fuel n))))

/-- `n` values. -/
def items : Nat → Nat → Reader (List Value)
  | _, 0 => pure []
  | 0, _ + 1 => throw .endOfInput
  | fuel + 1, n + 1 => do
    let v ← value fuel
    pure (v :: (← items fuel n))

/-- `n` map entries of a text key and a value. -/
def entries : Nat → Nat → Reader (List (String × Value))
  | _, 0 => pure []
  | 0, _ + 1 => throw .endOfInput
  | fuel + 1, n + 1 => do
    let k ← text
    let v ← value fuel
    pure ((k, v) :: (← entries fuel n))
end

mutual
/-- Passes over one value of any type without reading it into a value. -/
def skip : Nat → Reader Unit
  | 0 => throw .endOfInput
  | fuel + 1 => do
    let c ← byte
    if c ≤ 0x7f || c ≥ 0xe0 || c == 0xc0 || c == 0xc2 || c == 0xc3 then pure ()
    else if within c 0x80 0x8f || c == 0xde || c == 0xdf then
      match ← mapLength c with
      | none => pure ()
      | some n => skipMany fuel (2 * n)
    else if within c 0x90 0x9f || c == 0xdc || c == 0xdd then
      match ← arrayLength c with
      | none => pure ()
      | some n => skipMany fuel n
    else if within c 0xa0 0xbf || within c 0xd9 0xdb || within c 0xc4 0xc6 then
      match ← textLength c with
      | none => pure ()
      | some n => do let _ ← take n
    else if isExtension c then do
      let n ← extensionLength c
      let _ ← take (n + 1)
    else
      match c with
      | 0xcc | 0xd0 => do let _ ← take 1
      | 0xcd | 0xd1 => do let _ ← take 2
      | 0xca | 0xce | 0xd2 => do let _ ← take 4
      | 0xcb | 0xcf | 0xd3 => do let _ ← take 8
      | _ => throw (.unknownCode c none)

/-- Passes over `n` values. -/
def skipMany : Nat → Nat → Reader Unit
  | _, 0 => pure ()
  | 0, _ + 1 => throw .endOfInput
  | fuel + 1, n + 1 => do
    skip fuel
    skipMany fuel n
end

/-- Reads the fields of a map-form envelope: `o`, `t` and `d` by name, others passed over. -/
def envelopeFields (fuel : Nat) : Nat → Envelope → Reader Envelope
  | 0, e => pure e
  | n + 1, e => do
    let name ← text
    let e ← match name with
      | "o" => do pure { e with origin := ← text }
      | "t" => do pure { e with topic := ← text }
      | "d" => do
        let d ← value fuel
        pure (match d with
          | .null => e
          | _ => { e with data := d })
      | _ => do skip fuel; pure e
    envelopeFields fuel n e

/-- The empty envelope. -/
def Envelope.empty : Envelope := ⟨"", "", .null⟩

/-- An envelope: a map of its fields by name, or an array of its three fields in order; nil and
the empty array are the empty envelope. -/
def envelope (fuel : Nat) : Reader Envelope := do
  let c ← byte
  let asMap ← tryCatch (do pure (Except.ok (← mapLength c))) (fun e => pure (Except.error e))
  match asMap with
  | .ok none => pure Envelope.empty
  | .ok (some n) => envelopeFields fuel n Envelope.empty
  | .error fault =>
    let asArray ← tryCatch (do pure (some (← arrayLength c))) (fun _ => pure none)
    match asArray with
    | none => throw fault
    | some none | some (some 0) => pure Envelope.empty
    | some (some 3) => do
      let origin ← text
      let topic ← text
      let data ← value fuel
      pure ⟨origin, topic, data⟩
    | some (some _) => throw .fieldCount

/-- The fuel for reading bytes: more than any nesting they can hold. -/
def fuelFor (bs : Bytes) : Nat := 2 * bs.length + 2

/-- The first value packed in bytes. -/
def unpack (bs : Bytes) : Except ReadFault Value := (value (fuelFor bs)).run' bs

/-- The first text packed in bytes. -/
def unpackText (bs : Bytes) : Except ReadFault String := text.run' bs

/-- The first envelope packed in bytes. -/
def unpackEnvelope (bs : Bytes) : Except ReadFault Envelope := (envelope (fuelFor bs)).run' bs

end ViewEngine.MessagePack
