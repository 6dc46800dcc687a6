import ViewEngine.Token.Aes

/-!
AES-GCM with a 12-byte nonce and a 16-byte tag, without associated data. The text is XORed with
AES of successive counter blocks after the nonce's first one, and the tag is the GHASH of the
ciphertext, keyed by the encrypted zero block, XORed with AES of that first counter block.
-/

namespace ViewEngine.Token.Gcm

/-- The reduction constant of GHASH: `x^128 + x^7 + x^2 + x + 1` in the bit-reflected order. -/
def reduction : Nat := 0xE1 * Nat.pow 2 120

/-- Multiplication in GF(2^128) of GHASH, blocks read as 128-bit numbers with the first bit of
the block as the coefficient of `x^0`: each bit of `x` from the top adds the running multiple of
`y`, which is multiplied by `x` (shifted right, reduced) after every bit. -/
def multiply (x y : Nat) : Nat :=
  let step (acc : Nat × Nat) (i : Nat) : Nat × Nat :=
    let (z, v) := acc
    let z := if x.testBit (127 - i) then z ^^^ v else z
    let v := if v % 2 == 1 then (v / 2) ^^^ reduction else v / 2
    (z, v)
  ((List.range 128).foldl step (0, y)).1

/-- GHASH of a text under the hash key: every 16-byte block, the last one padded with zeros, and
then the block of bit lengths (none for associated data, then the text's). -/
def ghash (hashKey : Nat) (text : Bytes) : Bytes :=
  let blocks := (Bytes.chunks 16 text).map (fun b => Bytes.toNat (b ++ Bytes.zeros (16 - b.length)))
  let lengths := 8 * text.length
  let acc := (blocks ++ [lengths]).foldl (fun acc b => multiply (acc ^^^ b) hashKey) 0
  Bytes.ofNat 16 acc

/-- The counter block after this one: its last four bytes count up modulo `2 ^ 32`. -/
def inc32 (block : Bytes) : Bytes :=
  block.take 12 ++ Bytes.ofNat 4 (Bytes.toNat (block.drop 12) + 1)

/-- The keystream of `n` blocks from a counter block on. -/
def keystream (keys : List Bytes) : Nat → Bytes → Bytes
  | 0, _ => []
  | n + 1, counter => Aes.encrypt keys counter ++ keystream keys n (inc32 counter)

/-- XORs a text with the keystream that starts after the nonce's first counter block. -/
def counterMode (keys : List Bytes) (nonce text : Bytes) : Bytes :=
  let first := nonce ++ [0, 0, 0, 1]
  Bytes.xor text (keystream keys ((text.length + 15) / 16) (inc32 first))

/-- The tag of a ciphertext under a nonce. -/
def tag (keys : List Bytes) (nonce cipher : Bytes) : Bytes :=
  let hashKey := Bytes.toNat (Aes.encrypt keys (Bytes.zeros 16))
  Bytes.xor (ghash hashKey cipher) (Aes.encrypt keys (nonce ++ [0, 0, 0, 1]))

/-- Encrypts a text under a 32-byte key and a 12-byte nonce: the ciphertext followed by its tag. -/
def encrypt (key nonce plain : Bytes) : Bytes :=
  let keys := Aes.roundKeys key
  let cipher := counterMode keys nonce plain
  cipher ++ tag keys nonce cipher

/-- Decrypts a ciphertext followed by its tag, when the tag is right. -/
def decrypt? (key nonce sealed : Bytes) : Option Bytes :=
  if sealed.length < 16 then none
  else
    let keys := Aes.roundKeys key
    let cipher := sealed.take (sealed.length - 16)
    if tag keys nonce cipher == sealed.drop (sealed.length - 16) then
      some (counterMode keys nonce cipher)
    else none

end ViewEngine.Token.Gcm
