import ViewEngine.Token.Hmac
import ViewEngine.Token.Gcm
import ViewEngine.Text.Base64
import ViewEngine.MessagePack.Read
import ViewEngine.Failure

/-!
Tokens that carry packed values between hosts, under a shared key. A signed token is the URL-safe
base64 of the packed bytes, a dot, and the base64 of the first 16 bytes of their HMAC-SHA-256; it
can be read by anyone and changed by no one. A sealed token is the base64 of a nonce, the AES-GCM
ciphertext of the packed bytes and its tag. The packing library is a parameter of encoding, and the
reader of the packed bytes one of decoding.
-/

namespace ViewEngine.Token

open MessagePack Text

/-- Why a token does not yield a value. -/
inductive TokenError where
  /-- The token or its payload is malformed; the detail says how. -/
  | malformed (detail : String)
  /-- The signature does not match the payload. -/
  | badSignature
  /-- The ciphertext does not authenticate under the key. -/
  | undecryptable
  /-- The value cannot be packed. -/
  | unpackable (e : PackError)
  deriving DecidableEq, Repr

/-- The text of a token error. -/
def TokenError.message : TokenError → String
  | .malformed detail => "encoding: invalid format: " ++ detail
  | .badSignature => "encoding: signature verification failed"
  | .undecryptable => "encoding: decryption failed"
  | .unpackable e => "encoding: marshal: " ++ e.message

/-- The kind of error a token error is: an invalid format, a bad signature, a failed decryption,
or none of those for a value that cannot be packed. -/
def TokenError.kind : TokenError → FailureKind
  | .malformed _ => .invalidFormat
  | .badSignature => .signatureInvalid
  | .undecryptable => .decryptFailed
  | .unpackable _ => .error

/-- How the engine reports a token error: a decoding error as the engine's own error of the same
kind, with that error's text; any other error as it is. -/
def TokenError.wrap (e : TokenError) : FailureKind × String :=
  match e with
  | .malformed _ => (.invalidFormat, "rigor: invalid message format")
  | .badSignature => (.signatureInvalid, "rigor: signature verification failed")
  | .undecryptable => (.decryptFailed, "rigor: message decryption failed")
  | .unpackable _ => (.error, e.message)

/-- The detail of a base64 fault at a byte offset. -/
def base64Fault (offset : Nat) : String := "illegal base64 data at input byte " ++ toString offset

/-- The keys of a codec. -/
structure Codec where
  /-- The signing key: the shared key, or its SHA-256 digest when shorter than 32 bytes. -/
  key : Bytes

namespace Codec

/-- The codec of a shared key; a key shorter than 32 bytes is stretched by SHA-256. -/
def ofKey (key : Bytes) : Codec := ⟨if key.length < 32 then Sha256.hash key else key⟩

/-- The AES-256 key: the first 32 bytes of the signing key. -/
def cipherKey (c : Codec) : Bytes := c.key.take 32

/-- The nonce length of sealed tokens. -/
def nonceLength : Nat := 12

/-- The first 16 bytes of the HMAC of a payload. -/
def signature (c : Codec) (payload : Bytes) : Bytes := (hmac c.key payload).take 16

/-- A signed token of a payload. -/
def sign (c : Codec) (payload : Bytes) : String :=
  Base64.encode payload ++ "." ++ Base64.encode (c.signature payload)

/-- The payload of a signed token: the text before the first dot and the signature after it must
both be base64, and the signature must match. -/
def verify (c : Codec) (token : String) : Except TokenError Bytes := do
  let cs := token.toList
  match cs.dropWhile (· != '.') with
  | [] => throw (.malformed "missing signature")
  | _ :: sigText =>
    let payload ← (Base64.decode (String.ofList (cs.takeWhile (· != '.')))).mapError
      (fun o => .malformed (base64Fault o))
    let sig ← (Base64.decode (String.ofList sigText)).mapError (fun o => .malformed (base64Fault o))
    if sig == c.signature payload then pure payload else throw .badSignature

/-- A sealed token of a payload under a 12-byte nonce. -/
def encrypt (c : Codec) (nonce payload : Bytes) : String :=
  Base64.encode (nonce ++ Gcm.encrypt c.cipherKey nonce payload)

/-- The payload of a sealed token: base64 of at least a nonce, then a ciphertext that
authenticates. -/
def decrypt (c : Codec) (token : String) : Except TokenError Bytes := do
  let raw ← (Base64.decode token).mapError (fun o => .malformed (base64Fault o))
  if raw.length < nonceLength then throw (.malformed "ciphertext too short")
  match Gcm.decrypt? c.cipherKey (raw.take nonceLength) (raw.drop nonceLength) with
  | some payload => pure payload
  | none => throw .undecryptable

/-- The token of packed bytes: sealed under the nonce, or signed. -/
def wrap (c : Codec) (sealed : Bool) (nonce : Bytes) (packed : Bytes) : String :=
  if sealed then c.encrypt nonce packed else c.sign packed

/-- The packed bytes of a token, sealed or signed. -/
def unwrap (c : Codec) (sealed : Bool) (token : String) : Except TokenError Bytes :=
  if sealed then c.decrypt token else c.verify token

/-- The token of what a packing library packs (a value or an envelope): its packed bytes, sealed
under the nonce or signed. -/
def encode {α : Type} (c : Codec) (pack : α → Except PackError Bytes) (sealed : Bool) (nonce : Bytes) (v : α) :
    Except TokenError String :=
  (pack v).map (c.wrap sealed nonce) |>.mapError .unpackable

/-- Reads the packed bytes of a token with a reader. -/
def decodeWith (c : Codec) (sealed : Bool) (token : String) (read : Bytes → Except ReadFault α) :
    Except TokenError α := do
  let packed ← c.unwrap sealed token
  (read packed).mapError (fun f => .malformed f.message)

end Codec

end ViewEngine.Token
