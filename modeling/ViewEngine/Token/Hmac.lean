import ViewEngine.Token.Sha256

/-!
HMAC over SHA-256: a keyed digest, the hash of the outer-padded key followed by the hash of the
inner-padded key and the message.
-/

namespace ViewEngine.Token

/-- The key as one hash block: hashed first when longer than a block, then padded with zeros. -/
def hmacBlockKey (key : Bytes) : Bytes :=
  let short := if key.length > 64 then Sha256.hash key else key
  short ++ Bytes.zeros (64 - short.length)

/-- The HMAC-SHA-256 digest of a message under a key. -/
def hmac (key msg : Bytes) : Bytes :=
  let k := hmacBlockKey key
  let inner := Sha256.hash (k.map (· ^^^ 0x36) ++ msg)
  Sha256.hash (k.map (· ^^^ 0x5c) ++ inner)

end ViewEngine.Token
