import Mathlib
import ViewEngine.Token.Codec
import ViewEngine.Proofs.Text.Base64
import ViewEngine.Proofs.Token.Cipher

/-! Tokens read back under an agreeing key. A signed token splits at its first dot into two base64
texts, neither of which holds a dot, and its signature is the HMAC under the whole derived key; a
sealed token is the nonce followed by the AES-GCM ciphertext, under the first 32 bytes of the
derived key only. So a token is read back by any codec whose key agrees with its writer's to that
extent, and in particular by its writer's. -/

namespace ViewEngine.Token.Codec

open Text MessagePack

/-- Two codecs that read each other's tokens of a kind: signed tokens need the same signing key,
sealed tokens only the same cipher key. -/
def Agree (sealed : Bool) (c c' : Codec) : Prop :=
  if sealed then c.cipherKey = c'.cipherKey else c.key = c'.key

instance (sealed : Bool) (c c' : Codec) : Decidable (Agree sealed c c') :=
  inferInstanceAs (Decidable (if sealed then c.cipherKey = c'.cipherKey else c.key = c'.key))

theorem Agree.refl (sealed : Bool) (c : Codec) : Agree sealed c c := by
  cases sealed <;> rfl

/-- A derived key is at least 32 bytes: a short key is replaced by its digest. -/
theorem length_ofKey_key (k : Bytes) : 32 ≤ (ofKey k).key.length := by
  by_cases short : k.length < 32
  · simp [ofKey, short]
  · simp [ofKey, short]
    omega

theorem length_ofKey_cipherKey (k : Bytes) : (ofKey k).cipherKey.length = 32 := by
  have := length_ofKey_key k
  simp only [cipherKey, List.length_take]
  omega

/-- A signed token verifies under the same signing key and gives its payload back. -/
theorem verify_sign {c c' : Codec} (same : c.key = c'.key) (payload : Bytes) :
    c.verify (c'.sign payload) = .ok payload := by
  -- The first dot of the token is the separator, since base64 texts hold none.
  have noDot : ∀ ch ∈ (Base64.encode payload).toList, (ch != '.') = true := by
    intro ch h
    have := Base64.dot_not_mem_encode payload
    simp only [bne_iff_ne, ne_eq]
    rintro rfl
    exact this h
  have chars : (c'.sign payload).toList =
      (Base64.encode payload).toList ++ '.' :: (Base64.encode (c'.signature payload)).toList := by
    simp [sign, String.toList_append]
  simp [verify, chars, List.dropWhile_append_of_pos noDot, List.takeWhile_append_of_pos noDot,
    Base64.decode_encode, signature, same, Except.mapError, bind, Except.bind, pure, Except.pure]

/-- A sealed token under a full nonce opens under the same cipher key and gives its payload back. -/
theorem decrypt_encrypt {c c' : Codec} (same : c.cipherKey = c'.cipherKey) (full : c'.cipherKey.length = 32)
    {nonce : Bytes} (h : nonce.length = nonceLength) (payload : Bytes) :
    c.decrypt (c'.encrypt nonce payload) = .ok payload := by
  -- The first twelve bytes read are the nonce and the rest is what AES-GCM sealed.
  simp [decrypt, encrypt, Base64.decode_encode, h, List.take_left', List.drop_left', same,
    Gcm.decrypt_encrypt full, Except.mapError, bind, Except.bind, pure, Except.pure]

/-- The packed bytes of a token of either kind come back under an agreeing key. -/
theorem unwrap_wrap {k₁ k₂ : Bytes} {sealed : Bool} (agree : Agree sealed (ofKey k₁) (ofKey k₂))
    {nonce : Bytes} (h : nonce.length = nonceLength) (packed : Bytes) :
    (ofKey k₂).unwrap sealed ((ofKey k₁).wrap sealed nonce packed) = .ok packed := by
  cases sealed with
  | false => exact verify_sign agree.symm packed
  | true => exact decrypt_encrypt agree.symm (length_ofKey_cipherKey k₁) h packed

/-- Encoding packs and wraps; decoding unwraps and reads: under an agreeing key, decoding the token
of packed bytes is reading those bytes. -/
theorem decodeWith_wrap {k₁ k₂ : Bytes} {sealed : Bool} (agree : Agree sealed (ofKey k₁) (ofKey k₂))
    {nonce : Bytes} (h : nonce.length = nonceLength) (packed : Bytes) {α : Type}
    (read : Bytes → Except ReadFault α) :
    (ofKey k₂).decodeWith sealed ((ofKey k₁).wrap sealed nonce packed) read =
      (read packed).mapError (fun f => .malformed f.message) := by
  simp only [decodeWith, unwrap_wrap agree h, bind, Except.bind]

/-- Token round trip with equivalent keys, for any packing library: a value (or an envelope) that
packs is encoded into a token, signed or sealed under a twelve-byte nonce, and decoding that token
with a key that agrees (the same derived key for signed tokens, the same first 32 bytes of it for
sealed ones) yields exactly what reading the packed bytes yields, for every reader of a target
type. -/
theorem decode_encode_of_agreeing_keys {k₁ k₂ : Bytes} {sealed : Bool}
    (agree : Agree sealed (ofKey k₁) (ofKey k₂)) {nonce : Bytes} (h : nonce.length = nonceLength)
    {α β : Type} (pack : α → Except PackError Bytes) (read : Bytes → Except ReadFault β) (v : α) {packed : Bytes}
    (packs : pack v = .ok packed) :
    ∃ token, (ofKey k₁).encode pack sealed nonce v = .ok token ∧
      (ofKey k₂).decodeWith sealed token read = (read packed).mapError (fun f => .malformed f.message) :=
  ⟨_, by simp [encode, packs, Except.map, Except.mapError], decodeWith_wrap agree h packed read⟩

/-- A 33-byte key reads the sealed tokens of its first 32 bytes, though the two sign differently. -/
theorem sealed_token_opens_under_longer_key :
    Agree true (ofKey (List.replicate 32 7)) (ofKey (List.replicate 32 7 ++ [1])) ∧
      (Bytes.zeros 12).length = nonceLength ∧ pack (.bool true) = .ok [0xc3] ∧
      ∃ token, (ofKey (List.replicate 32 7)).encode pack true (Bytes.zeros 12) (.bool true) = .ok token ∧
        (ofKey (List.replicate 32 7 ++ [1])).decodeWith true token unpack =
          (unpack [0xc3]).mapError (fun f => .malformed f.message) :=
  ⟨by decide, rfl, rfl, decode_encode_of_agreeing_keys (by decide) rfl pack unpack (.bool true) rfl⟩

/-- Decoding with the encoder's own key yields what reading the packed bytes yields, in both
modes, for every key and every packing library. -/
theorem decode_encode_same_key (k : Bytes) (sealed : Bool) {nonce : Bytes} (h : nonce.length = nonceLength)
    {α β : Type} (pack : α → Except PackError Bytes) (v : α) {packed : Bytes} (packs : pack v = .ok packed)
    (read : Bytes → Except ReadFault β) :
    ∃ token, (ofKey k).encode pack sealed nonce v = .ok token ∧
      (ofKey k).decodeWith sealed token read = (read packed).mapError (fun f => .malformed f.message) :=
  ⟨_, by simp [encode, packs, Except.map, Except.mapError], decodeWith_wrap (Agree.refl sealed _) h packed read⟩

end ViewEngine.Token.Codec
