import ViewEngine.Data.Bytes

/-!
Base64 in two alphabets: the URL-safe one without padding (`-` and `_` for the last two
sextets), and the standard one with `=` padding (`+` and `/`). Reading goes in quanta of four
characters; line breaks are skipped, and any other character outside the alphabet fails with its
byte offset. With padding, a quantum cut short by the end of the input is a fault, and only line
breaks may follow the padding.
-/

namespace ViewEngine.Text.Base64

/-- An alphabet: the letters of the last two sextets, and whether the text is padded with `=`. -/
structure Alphabet where
  letter62 : Char
  letter63 : Char
  padded : Bool

/-- The URL-safe alphabet, unpadded. -/
def Alphabet.url : Alphabet := ⟨'-', '_', false⟩

/-- The standard alphabet, padded. -/
def Alphabet.standard : Alphabet := ⟨'+', '/', true⟩

/-- The character of a sextet: `A`–`Z`, `a`–`z`, `0`–`9`, then the alphabet's last two. -/
def Alphabet.letter (a : Alphabet) (n : Nat) : Char :=
  if n < 26 then Char.ofNat (65 + n)
  else if n < 52 then Char.ofNat (97 + n - 26)
  else if n < 62 then Char.ofNat (48 + n - 52)
  else if n == 62 then a.letter62 else a.letter63

/-- The sextet a byte stands for, if it is a letter of the alphabet. -/
def Alphabet.sextet? (a : Alphabet) (b : UInt8) : Option Nat :=
  let n := b.toNat
  if 65 ≤ n && n ≤ 90 then some (n - 65)
  else if 97 ≤ n && n ≤ 122 then some (n - 97 + 26)
  else if 48 ≤ n && n ≤ 57 then some (n - 48 + 52)
  else if n == a.letter62.toNat then some 62
  else if n == a.letter63.toNat then some 63
  else none

/-- The letters of bytes, four for every three bytes and two or three for a short tail. -/
def encodeChars (a : Alphabet) : Bytes → List Char
  | x :: y :: z :: rest =>
    let v := x.toNat * 65536 + y.toNat * 256 + z.toNat
    a.letter (v / 262144) :: a.letter (v / 4096 % 64) :: a.letter (v / 64 % 64) :: a.letter (v % 64) ::
      encodeChars a rest
  | [x, y] =>
    let v := x.toNat * 65536 + y.toNat * 256
    [a.letter (v / 262144), a.letter (v / 4096 % 64), a.letter (v / 64 % 64)]
  | [x] => [a.letter (x.toNat / 4), a.letter (x.toNat % 4 * 16)]
  | [] => []

/-- The unpadded URL-safe text of bytes. -/
def encode (bs : Bytes) : String := String.ofList (encodeChars .url bs)

/-- The bytes of two to four sextets: one byte fewer than sextets; spare low bits are ignored. -/
def assemble (got : List Nat) : Bytes :=
  let v := got.foldl (fun acc s => acc * 64 + s) 0 * Nat.pow 64 (4 - got.length)
  (Bytes.ofNat 3 v).take (got.length - 1)

/-- Skips line breaks from offset `pos`. -/
def skipBreaks (pos : Nat) : Bytes → Nat × Bytes
  | b :: rest => if b == 10 || b == 13 then skipBreaks (pos + 1) rest else (pos, b :: rest)
  | [] => (pos, [])

/-- Reads the end of a padded quantum after its first `=` (at offset `pos - 1`), with the
sextets `got` before it: a second `=` after two sextets, then only line breaks. -/
def padding (pos : Nat) (got : List Nat) (rest : Bytes) : Except Nat (Bytes × Nat × Bytes) :=
  if got.length < 2 then .error (pos - 1)
  else
    let second : Except Nat (Nat × Bytes) :=
      if got.length == 2 then
        match skipBreaks pos rest with
        | (at_, []) => .error at_
        | (at_, b :: more) => if b == 61 then .ok (at_ + 1, more) else .error (at_ - 1)
      else .ok (pos, rest)
    match second with
    | .error e => .error e
    | .ok (pos, rest) =>
      match skipBreaks pos rest with
      | (at_, []) => .ok (assemble got, at_, [])
      | (at_, _ :: _) => .error at_

/-- Reads one quantum from the bytes at offset `pos`, with the sextets `got` already read: its
bytes, the offset and the bytes after it; or the offset of a fault. At the end of the input a
quantum of no sextets is empty, one of a single sextet is a fault, and with padding so is any
other short one. -/
def quantum (a : Alphabet) (pos : Nat) (got : List Nat) : Bytes → Except Nat (Bytes × Nat × Bytes)
  | [] =>
    match got with
    | [] => .ok ([], pos, [])
    | [_] => .error (pos - 1)
    | _ => if a.padded then .error (pos - got.length) else .ok (assemble got, pos, [])
  | b :: rest =>
    match a.sextet? b with
    | some s =>
      if got.length == 3 then .ok (assemble (got ++ [s]), pos + 1, rest)
      else quantum a (pos + 1) (got ++ [s]) rest
    | none =>
      if b == 10 || b == 13 then quantum a (pos + 1) got rest
      else if a.padded && b == 61 then padding (pos + 1) got rest
      else .error pos

/-- Reads quanta until the input ends; each quantum takes at least one byte, so `fuel` beyond the
input's length is never used up. -/
def decodeFrom (a : Alphabet) : Nat → Nat → Bytes → Except Nat Bytes
  | 0, _, _ => .ok []
  | fuel + 1, pos, src =>
    match src with
    | [] => .ok []
    | _ :: _ =>
      match quantum a pos [] src with
      | .error offset => .error offset
      | .ok (out, next, rest) =>
        match decodeFrom a fuel next rest with
        | .ok more => .ok (out ++ more)
        | .error offset => .error offset

/-- The bytes of a text in an alphabet, or the byte offset of its first fault. -/
def decodeWith (a : Alphabet) (s : String) : Except Nat Bytes :=
  let src := s.toUTF8.toList
  decodeFrom a (src.length + 1) 0 src

/-- The bytes of an unpadded URL-safe text, or the byte offset of its first fault. -/
def decode (s : String) : Except Nat Bytes := decodeWith .url s

end ViewEngine.Text.Base64
