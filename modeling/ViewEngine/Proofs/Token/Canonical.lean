import Mathlib
import ViewEngine.Proofs.Text.Base64Normal
import ViewEngine.Proofs.Token.Errors
import ViewEngine.Proofs.Token.RoundTrip

/-! What decoding a token checks of its text. HMAC and AES-GCM guard the bytes a token carries,
not the text it is written as: base64 reading skips line breaks and ignores the low bits of a
last letter that no byte takes. So a token that decodes need not be the one its writer gives
(`spare_bit_token_accepted`), but it is that token once its base64 texts are normalized: the
signature of the payload it carries, or the sealing of the opened payload under the nonce it
carries (`decoded_token_is_canonical`). -/

namespace ViewEngine.Token

open Text MessagePack

/-- What is sealed and then opened under one key is what was sealed: a tag that authenticates a
ciphertext under a 32-byte key is the one sealing its opened text gives. -/
theorem Gcm.encrypt_of_decrypt? {key nonce sealed plain : Bytes} (full : key.length = 32)
    (opened : Gcm.decrypt? key nonce sealed = some plain) : Gcm.encrypt key nonce plain = sealed := by
  have fit := Aes.roundKeys_fit full
  unfold Gcm.decrypt? at opened
  split at opened
  · simp at opened
  · dsimp only at opened
    split at opened
    · rename_i long tagged
      simp only [Option.some.injEq] at opened
      subst opened
      rw [Gcm.encrypt, Gcm.counterMode_counterMode fit]
      rw [beq_iff_eq] at tagged
      rw [tagged, List.take_append_drop]
    · simp at opened

/-- A result with its error changed succeeds exactly when it did, with the same value. -/
@[simp] theorem mapError_eq_ok {ε ε' α : Type} {x : Except ε α} {f : ε → ε'} {a : α} :
    x.mapError f = .ok a ↔ x = .ok a := by
  cases x <;> simp [Except.mapError]

namespace Codec

/-- A token as its writer gives it: each base64 text normalized, for a signed token the payload
and the signature around its first dot, for a sealed token the whole. -/
def canonical (sealed : Bool) (s : String) : String :=
  if sealed then Base64.normalize s
  else
    let cs := s.toList
    Base64.normalize (String.ofList (cs.takeWhile (· != '.'))) ++ "." ++
      Base64.normalize (String.ofList ((cs.dropWhile (· != '.')).drop 1))

/-- A signed token cut at its first dot is made canonical part by part. -/
theorem canonical_of_parts {s p q : String} (parts : SignedParts s p q) :
    canonical false s = Base64.normalize p ++ "." ++ Base64.normalize q := by
  obtain ⟨rfl, noDot⟩ := parts
  have pass : ∀ ch ∈ p.toList, (ch != '.') = true := by
    intro ch mem
    simp only [bne_iff_ne, ne_eq]
    rintro rfl
    exact noDot mem
  have chars : (p ++ "." ++ q).toList = p.toList ++ '.' :: q.toList := by simp [String.toList_append]
  simp [canonical, chars, List.dropWhile_append_of_pos pass, List.takeWhile_append_of_pos pass]

/-- Every token that decodes is, once canonical, the very token its writer gives: for a signed token
the signature of the payload it carries, for a sealed one the sealing of the opened payload under
the nonce it carries. Nothing else in the text is checked: line breaks anywhere in a base64 text,
and low bits of a last letter that no byte takes, pass unseen. -/
theorem decoded_token_is_canonical (k : Bytes) (sealed : Bool) (s : String) {α : Type}
    (read : Bytes → Except ReadFault α) {v : α} (h : (ofKey k).decodeWith sealed s read = .ok v) :
    ∃ nonce packed, read packed = .ok v ∧ (ofKey k).wrap sealed nonce packed = canonical sealed s := by
  cases sealed with
  | false =>
    -- A signed token has a dot, both its texts read as base64, and its signature matches.
    by_cases dot : '.' ∈ s.toList
    · obtain ⟨p, q, parts⟩ := exists_signedParts dot
      rw [decodeWith_signed_of_parts _ _ parts] at h
      cases hp : Base64.decode p with
      | error o => simp [hp] at h
      | ok payload =>
        cases hq : Base64.decode q with
        | error o => simp [hp, hq] at h
        | ok sig =>
          by_cases same : sig = (ofKey k).signature payload
          · simp only [hp, hq, same, if_true, mapError_eq_ok] at h
            refine ⟨[], payload, h, ?_⟩
            rw [canonical_of_parts parts, wrap, if_neg Bool.false_ne_true, sign,
              Base64.encode_of_decode hp, ← same, Base64.encode_of_decode hq]
          · simp [hp, hq, same] at h
    · rw [decodeWith_signed_of_no_dot _ _ dot] at h
      cases h
  | true =>
    -- A sealed token reads as base64 and holds a nonce and a ciphertext that authenticates.
    rw [decodeWith_sealed] at h
    cases hs : Base64.decode s with
    | error o => simp [hs] at h
    | ok raw =>
      by_cases short : raw.length < nonceLength
      · simp [hs, short] at h
      · cases opened : Gcm.decrypt? (ofKey k).cipherKey (raw.take nonceLength) (raw.drop nonceLength) with
        | none => simp [hs, short, opened] at h
        | some plain =>
          simp only [hs, short, opened, if_false, mapError_eq_ok] at h
          refine ⟨raw.take nonceLength, plain, h, ?_⟩
          rw [canonical, if_pos rfl, wrap, if_pos rfl, encrypt,
            Gcm.encrypt_of_decrypt? (length_ofKey_cipherKey k) opened, List.take_append_drop,
            Base64.encode_of_decode hs]

/-- The signed token of the packed value `true` under the key `k`, with a spare bit set in the
last letter of its payload text: `wx` where its writer puts `ww`. -/
def spareBitToken : String := "wx." ++ Base64.encode ((ofKey "k".toUTF8.toList).signature [0xc3])

/-- The token with a spare bit set verifies, with the payload `0xc3`. -/
theorem spareBitToken_verifies : (ofKey "k".toUTF8.toList).verify spareBitToken = .ok [0xc3] := by
  have parts : SignedParts spareBitToken "wx" (Base64.encode ((ofKey "k".toUTF8.toList).signature [0xc3])) :=
    ⟨rfl, by decide⟩
  -- Verifying is decoding with a reader that keeps the payload.
  have kept : (ofKey "k".toUTF8.toList).verify spareBitToken =
      (ofKey "k".toUTF8.toList).decodeWith false spareBitToken (fun p => .ok p) := by
    simp only [decodeWith, unwrap, if_neg Bool.false_ne_true]
    cases (ofKey "k".toUTF8.toList).verify spareBitToken <;> rfl
  -- The payload text reads as the byte its writer puts as `ww`; the signature is the writer's own.
  have payload : Base64.decode "wx" = .ok [0xc3] := by decide +kernel
  rw [kept, decodeWith_signed_of_parts _ _ parts, payload, Base64.decode_encode]
  simp only [if_true]
  rfl

/-- The token with a spare bit set decodes, as the value `true`. -/
theorem spareBitToken_decodes :
    (ofKey "k".toUTF8.toList).decodeWith false spareBitToken unpack = .ok (.bool true) := by
  simp only [decodeWith, unwrap, if_neg Bool.false_ne_true, spareBitToken_verifies, bind, Except.bind]
  rfl

/-- Decoding does not make tokens canonical: a token its writer never gives, with a spare bit set,
decodes. -/
theorem spare_bit_token_accepted :
    (ofKey "k".toUTF8.toList).verify spareBitToken = .ok [0xc3] ∧
      (ofKey "k".toUTF8.toList).decodeWith false spareBitToken unpack = .ok (.bool true) ∧
      spareBitToken ≠ (ofKey "k".toUTF8.toList).sign [0xc3] := by
  refine ⟨spareBitToken_verifies, spareBitToken_decodes, fun same => ?_⟩
  have written : Base64.encode [0xc3] = "ww" := by decide
  have := congrArg (fun t : String => t.toList.take 2) same
  simp [spareBitToken, sign, written, String.toList_append] at this

/-- The token with a spare bit set is, once canonical, the token its writer gives `true`. -/
theorem spare_bit_token_canonical :
    (ofKey "k".toUTF8.toList).decodeWith false spareBitToken unpack = .ok (.bool true) ∧
      ∃ nonce packed, unpack packed = .ok (.bool true) ∧
        (ofKey "k".toUTF8.toList).wrap false nonce packed = canonical false spareBitToken :=
  ⟨spareBitToken_decodes, decoded_token_is_canonical _ false _ unpack spareBitToken_decodes⟩

end Codec

end ViewEngine.Token
