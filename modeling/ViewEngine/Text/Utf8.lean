/-!
UTF-8: the bytes of a text, and a text from bytes where each byte that does not start a valid
encoding stands for the replacement character U+FFFD.
-/

namespace ViewEngine.Text

/-- Whether a byte continues an encoding. -/
def isContinuation (b : UInt8) : Bool := b &&& 0xC0 == 0x80

/-- The bounds of the second byte after a lead byte of a multi-byte encoding. -/
def secondRange (lead : UInt8) : UInt8 × UInt8 :=
  if lead == 0xE0 then (0xA0, 0xBF)
  else if lead == 0xED then (0x80, 0x9F)
  else if lead == 0xF0 then (0x90, 0xBF)
  else if lead == 0xF4 then (0x80, 0x8F)
  else (0x80, 0xBF)

/-- The first code point of bytes and how many bytes it takes; an invalid start takes one byte
and stands for U+FFFD. -/
def decodeOne : List UInt8 → Option (Char × Nat)
  | [] => none
  | b0 :: rest =>
    let n0 := b0.toNat
    let bad := some ('�', 1)
    if n0 < 0x80 then some (Char.ofNat n0, 1)
    else if n0 < 0xC2 || n0 > 0xF4 then bad
    else
      let (lo, hi) := secondRange b0
      match rest with
      | b1 :: more =>
        if b1 < lo || b1 > hi then bad
        else if n0 < 0xE0 then some (Char.ofNat ((n0 &&& 0x1F) * 64 + (b1.toNat &&& 0x3F)), 2)
        else
          match more with
          | b2 :: more2 =>
            if !isContinuation b2 then bad
            else if n0 < 0xF0 then
              some (Char.ofNat (((n0 &&& 0x0F) * 64 + (b1.toNat &&& 0x3F)) * 64 + (b2.toNat &&& 0x3F)), 3)
            else
              match more2 with
              | b3 :: _ =>
                if !isContinuation b3 then bad
                else some (Char.ofNat ((((n0 &&& 0x07) * 64 + (b1.toNat &&& 0x3F)) * 64 +
                  (b2.toNat &&& 0x3F)) * 64 + (b3.toNat &&& 0x3F)), 4)
              | [] => bad
          | [] => bad
      | [] => bad

/-- Decodes bytes, each invalid byte becoming U+FFFD. -/
def decodeLossyFrom : Nat → List UInt8 → List Char
  | 0, _ => []
  | fuel + 1, bytes =>
    match decodeOne bytes with
    | none => []
    | some (c, n) => c :: decodeLossyFrom fuel (bytes.drop n)

/-- The text of bytes, each invalid byte standing for U+FFFD. -/
def ofUtf8Lossy (bytes : List UInt8) : String := String.ofList (decodeLossyFrom bytes.length bytes)

/-- Whether bytes are a valid encoding throughout. -/
def isValidUtf8From : Nat → List UInt8 → Bool
  | 0, bytes => bytes.isEmpty
  | fuel + 1, bytes =>
    match decodeOne bytes with
    | none => true
    | some (c, n) => (c != '�' || n == 3) && isValidUtf8From fuel (bytes.drop n)

/-- The bytes of a text. -/
def utf8Bytes (s : String) : List UInt8 := s.toUTF8.toList

end ViewEngine.Text
