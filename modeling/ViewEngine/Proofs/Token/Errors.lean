import Mathlib
import ViewEngine.Token.Codec

/-! Every way decoding a token fails, by kind. A signed token is cut at its first dot into a payload
text and a signature text; its checks come in order: the dot, both texts as base64, the signature
against the payload's HMAC, and reading the payload. A sealed token is checked as base64, for a
whole nonce, for authentication, and for reading the opened payload. A failure is an invalid format,
a bad signature or a failed decryption, by the first check that fails, and the engine reports each
as its own decoding error of the same kind. -/

namespace ViewEngine.Token

open Text MessagePack

/-- A signed token cut at its first dot: the payload text before it and the signature text after. -/
def SignedParts (s p q : String) : Prop := s = p ++ "." ++ q ∧ '.' ∉ p.toList

/-- A token with a dot is cut at its first one. -/
theorem exists_signedParts {s : String} (dot : '.' ∈ s.toList) : ∃ p q, SignedParts s p q := by
  -- The characters before the first dot hold none; what follows starts with the dot.
  have found : s.toList.dropWhile (· != '.') ≠ [] := by
    intro none
    simpa using List.dropWhile_eq_nil_iff.1 none '.' dot
  obtain ⟨ch, after, rest⟩ := List.exists_cons_of_ne_nil found
  have isDot : ch = '.' := by
    have stops := List.head_dropWhile_not (· != '.') found
    simpa [rest] using stops
  refine ⟨String.ofList (s.toList.takeWhile (· != '.')), String.ofList after, ?_, fun mem => ?_⟩
  · apply String.toList_injective
    have whole := List.takeWhile_append_dropWhile (p := (· != '.')) (l := s.toList)
    rw [rest, isDot] at whole
    simp [String.toList_append, whole]
  · have stops := List.mem_takeWhile_imp (p := (· != '.')) (by simpa using mem)
    simp at stops

namespace Codec

variable (c : Codec) {α : Type} (read : Bytes → Except ReadFault α)

/-- A signed token without a dot is missing its signature. -/
theorem decodeWith_signed_of_no_dot {s : String} (noDot : '.' ∉ s.toList) :
    c.decodeWith false s read = .error (.malformed "missing signature") := by
  have none : s.toList.dropWhile (· != '.') = [] :=
    List.dropWhile_eq_nil_iff.2 fun ch mem => by
      simp only [bne_iff_ne, ne_eq]
      rintro rfl
      exact noDot mem
  simp [decodeWith, unwrap, verify, none, bind, Except.bind, throw, throwThe, MonadExceptOf.throw]

/-- A signed token without a dot fails as an invalid format. -/
theorem signed_no_dot_kind {s : String} (noDot : '.' ∉ s.toList) {e : TokenError}
    (failed : c.decodeWith false s read = .error e) : e.kind = .invalidFormat := by
  rw [decodeWith_signed_of_no_dot c read noDot, Except.error.injEq] at failed
  simp [← failed, TokenError.kind]

/-- A signed token is decoded by its parts: both as base64, then the signature against the
payload's, then the payload read. -/
theorem decodeWith_signed_of_parts {s p q : String} (parts : SignedParts s p q) :
    c.decodeWith false s read =
      match Base64.decode p, Base64.decode q with
      | .error o, _ => .error (.malformed (base64Fault o))
      | .ok _, .error o => .error (.malformed (base64Fault o))
      | .ok payload, .ok sig =>
        if sig = c.signature payload then (read payload).mapError (fun f => .malformed f.message)
        else .error .badSignature := by
  obtain ⟨rfl, noDot⟩ := parts
  have pass : ∀ ch ∈ p.toList, (ch != '.') = true := by
    intro ch mem
    simp only [bne_iff_ne, ne_eq]
    rintro rfl
    exact noDot mem
  have chars : (p ++ "." ++ q).toList = p.toList ++ '.' :: q.toList := by simp [String.toList_append]
  simp only [decodeWith, unwrap, verify, chars, List.dropWhile_append_of_pos pass,
    List.takeWhile_append_of_pos pass, List.dropWhile_cons, List.takeWhile_cons]
  -- The checks run in order: the payload text, the signature text, the signature, the reading.
  cases hp : Base64.decode p with
  | error o => simp [hp, bind, Except.bind, Except.mapError]
  | ok payload =>
    cases hq : Base64.decode q with
    | error o => simp [hp, hq, bind, Except.bind, Except.mapError]
    | ok sig =>
      by_cases same : sig = c.signature payload <;>
        simp [hp, hq, same, bind, Except.bind, Except.mapError, pure, Except.pure, throw, throwThe,
          MonadExceptOf.throw]

/-- A sealed token is decoded as base64, checked for a whole nonce, opened, then read. -/
theorem decodeWith_sealed (s : String) :
    c.decodeWith true s read =
      match Base64.decode s with
      | .error o => .error (.malformed (base64Fault o))
      | .ok raw =>
        if raw.length < nonceLength then .error (.malformed "ciphertext too short")
        else
          match Gcm.decrypt? c.cipherKey (raw.take nonceLength) (raw.drop nonceLength) with
          | none => .error .undecryptable
          | some plain => (read plain).mapError (fun f => .malformed f.message) := by
  simp only [decodeWith, unwrap, decrypt, if_true]
  -- The checks run in order: base64, the nonce's length, authentication, the reading.
  cases Base64.decode s with
  | error o => simp [bind, Except.bind, Except.mapError]
  | ok raw =>
    by_cases short : raw.length < nonceLength
    · simp [short, bind, Except.bind, Except.mapError, throw, throwThe, MonadExceptOf.throw]
    · cases opened : Gcm.decrypt? c.cipherKey (raw.take nonceLength) (raw.drop nonceLength) <;>
        simp [short, opened, bind, Except.bind, Except.mapError, pure, Except.pure, throw, throwThe,
          MonadExceptOf.throw]

/-- How decoding a signed token with a dot fails: a part that is not base64, a signature that does
not match, or a payload that cannot be read, in that order. -/
theorem signed_failure_cases {s p q : String} (parts : SignedParts s p q) {e : TokenError}
    (failed : c.decodeWith false s read = .error e) :
    (∃ o, Base64.decode p = .error o ∧ e = .malformed (base64Fault o)) ∨
      (∃ payload o, Base64.decode p = .ok payload ∧ Base64.decode q = .error o ∧
        e = .malformed (base64Fault o)) ∨
      (∃ payload sig, Base64.decode p = .ok payload ∧ Base64.decode q = .ok sig ∧
        sig ≠ c.signature payload ∧ e = .badSignature) ∨
      ∃ payload f, Base64.decode p = .ok payload ∧ Base64.decode q = .ok (c.signature payload) ∧
        read payload = .error f ∧ e = .malformed f.message := by
  rw [decodeWith_signed_of_parts c read parts] at failed
  cases hp : Base64.decode p with
  | error o =>
    rw [hp] at failed
    exact Or.inl ⟨o, rfl, (Except.error.inj failed).symm⟩
  | ok payload =>
    cases hq : Base64.decode q with
    | error o =>
      rw [hp, hq] at failed
      exact Or.inr (Or.inl ⟨payload, o, rfl, rfl, (Except.error.inj failed).symm⟩)
    | ok sig =>
      rw [hp, hq] at failed
      by_cases same : sig = c.signature payload
      · -- The signature matches, so the reading failed.
        subst same
        cases hr : read payload with
        | error f =>
          simp only [if_true, hr, Except.mapError, Except.error.injEq] at failed
          exact Or.inr (Or.inr (Or.inr ⟨payload, f, rfl, rfl, hr, failed.symm⟩))
        | ok x => simp [hr, Except.mapError] at failed
      · simp only [same, if_false, Except.error.injEq] at failed
        exact Or.inr (Or.inr (Or.inl ⟨payload, sig, rfl, rfl, same, failed.symm⟩))

/-- How decoding a sealed token fails: not base64, too short for a nonce, not authenticated, or a
payload that cannot be read, in that order. -/
theorem sealed_failure_cases {s : String} {e : TokenError} (failed : c.decodeWith true s read = .error e) :
    (∃ o, Base64.decode s = .error o ∧ e = .malformed (base64Fault o)) ∨
      (∃ raw, Base64.decode s = .ok raw ∧ raw.length < nonceLength ∧ e = .malformed "ciphertext too short") ∨
      (∃ raw, Base64.decode s = .ok raw ∧ nonceLength ≤ raw.length ∧
        Gcm.decrypt? c.cipherKey (raw.take nonceLength) (raw.drop nonceLength) = none ∧ e = .undecryptable) ∨
      ∃ raw plain f, Base64.decode s = .ok raw ∧ nonceLength ≤ raw.length ∧
        Gcm.decrypt? c.cipherKey (raw.take nonceLength) (raw.drop nonceLength) = some plain ∧
        read plain = .error f ∧ e = .malformed f.message := by
  rw [decodeWith_sealed c read s] at failed
  cases hs : Base64.decode s with
  | error o =>
    rw [hs] at failed
    exact Or.inl ⟨o, rfl, (Except.error.inj failed).symm⟩
  | ok raw =>
    rw [hs] at failed
    by_cases short : raw.length < nonceLength
    · simp only [short, if_true, Except.error.injEq] at failed
      exact Or.inr (Or.inl ⟨raw, rfl, short, failed.symm⟩)
    · have whole : nonceLength ≤ raw.length := Nat.le_of_not_lt short
      simp only [short, if_false] at failed
      cases opened : Gcm.decrypt? c.cipherKey (raw.take nonceLength) (raw.drop nonceLength) with
      | none =>
        simp only [opened, Except.error.injEq] at failed
        exact Or.inr (Or.inr (Or.inl ⟨raw, rfl, whole, opened, failed.symm⟩))
      | some plain =>
        -- The ciphertext authenticated, so the reading failed.
        cases hr : read plain with
        | error f =>
          simp only [opened, hr, Except.mapError, Except.error.injEq] at failed
          exact Or.inr (Or.inr (Or.inr ⟨raw, plain, f, rfl, whole, opened, hr, failed.symm⟩))
        | ok x => simp [opened, hr, Except.mapError] at failed

/-- Decoding a signed token fails with an invalid format exactly when it has no dot, or a part of
it is not base64, or the signature matches and the payload cannot be read. -/
theorem signed_invalidFormat_iff (s : String) :
    (∃ e, c.decodeWith false s read = .error e ∧ e.kind = .invalidFormat) ↔
      '.' ∉ s.toList ∨ ∃ p q, SignedParts s p q ∧
        ((∃ o, Base64.decode p = .error o) ∨
          (∃ payload o, Base64.decode p = .ok payload ∧ Base64.decode q = .error o) ∨
          ∃ payload f, Base64.decode p = .ok payload ∧ Base64.decode q = .ok (c.signature payload) ∧
            read payload = .error f) := by
  by_cases dot : '.' ∈ s.toList
  · obtain ⟨p, q, parts⟩ := exists_signedParts dot
    constructor
    · rintro ⟨e, failed, kind⟩
      -- Every failure but a mismatched signature is one of format.
      refine Or.inr ⟨p, q, parts, ?_⟩
      rcases signed_failure_cases c read parts failed with
        ⟨o, hp, -⟩ | ⟨payload, o, hp, hq, -⟩ | ⟨payload, sig, -, -, -, rfl⟩ |
        ⟨payload, f, hp, hq, hr, -⟩
      · exact Or.inl ⟨o, hp⟩
      · exact Or.inr (Or.inl ⟨payload, o, hp, hq⟩)
      · simp [TokenError.kind] at kind
      · exact Or.inr (Or.inr ⟨payload, f, hp, hq, hr⟩)
    · rintro (noDot | ⟨p', q', parts', cause⟩)
      · exact absurd dot noDot
      rw [decodeWith_signed_of_parts c read parts']
      rcases cause with ⟨o, hp⟩ | ⟨payload, o, hp, hq⟩ | ⟨payload, f, hp, hq, hr⟩
      · exact ⟨_, by rw [hp], rfl⟩
      · exact ⟨_, by rw [hp, hq], rfl⟩
      · exact ⟨.malformed f.message, by simp [hp, hq, hr, Except.mapError], rfl⟩
  · exact iff_of_true ⟨_, decodeWith_signed_of_no_dot c read dot, rfl⟩ (Or.inl dot)

/-- Decoding a signed token fails with a bad signature exactly when both its parts are base64 and
the signature is not the first 16 bytes of the payload's HMAC, of whatever length it is. -/
theorem signed_signatureInvalid_iff (s : String) :
    (∃ e, c.decodeWith false s read = .error e ∧ e.kind = .signatureInvalid) ↔
      ∃ p q payload sig, SignedParts s p q ∧ Base64.decode p = .ok payload ∧ Base64.decode q = .ok sig ∧
        sig ≠ c.signature payload := by
  constructor
  · rintro ⟨e, failed, kind⟩
    by_cases dot : '.' ∈ s.toList
    · obtain ⟨p, q, parts⟩ := exists_signedParts dot
      rcases signed_failure_cases c read parts failed with
        ⟨o, -, rfl⟩ | ⟨payload, o, -, -, rfl⟩ | ⟨payload, sig, hp, hq, differs, -⟩ |
        ⟨payload, f, -, -, -, rfl⟩
      · simp [TokenError.kind] at kind
      · simp [TokenError.kind] at kind
      · exact ⟨p, q, payload, sig, parts, hp, hq, differs⟩
      · simp [TokenError.kind] at kind
    · simp [signed_no_dot_kind c read dot failed] at kind
  · rintro ⟨p, q, payload, sig, parts, hp, hq, differs⟩
    exact ⟨.badSignature, by simp [decodeWith_signed_of_parts c read parts, hp, hq, differs], rfl⟩

/-- Decoding a sealed token fails with an invalid format exactly when it is not base64, is too
short for a nonce, or authenticates to a payload that cannot be read. -/
theorem sealed_invalidFormat_iff (s : String) :
    (∃ e, c.decodeWith true s read = .error e ∧ e.kind = .invalidFormat) ↔
      (∃ o, Base64.decode s = .error o) ∨ ∃ raw, Base64.decode s = .ok raw ∧
        (raw.length < nonceLength ∨ nonceLength ≤ raw.length ∧ ∃ plain f,
          Gcm.decrypt? c.cipherKey (raw.take nonceLength) (raw.drop nonceLength) = some plain ∧
            read plain = .error f) := by
  constructor
  · rintro ⟨e, failed, kind⟩
    rcases sealed_failure_cases c read failed with
      ⟨o, hs, -⟩ | ⟨raw, hs, short, -⟩ | ⟨raw, -, -, -, rfl⟩ | ⟨raw, plain, f, hs, whole, opened, hr, -⟩
    · exact Or.inl ⟨o, hs⟩
    · exact Or.inr ⟨raw, hs, Or.inl short⟩
    · simp [TokenError.kind] at kind
    · exact Or.inr ⟨raw, hs, Or.inr ⟨whole, plain, f, opened, hr⟩⟩
  · rw [decodeWith_sealed c read s]
    rintro (⟨o, hs⟩ | ⟨raw, hs, short | ⟨whole, plain, f, opened, hr⟩⟩)
    · exact ⟨_, by rw [hs], rfl⟩
    · exact ⟨.malformed "ciphertext too short", by simp [hs, short], rfl⟩
    · exact ⟨.malformed f.message, by simp [hs, Nat.not_lt.2 whole, opened, hr, Except.mapError], rfl⟩

/-- Decoding a sealed token fails to decrypt exactly when it is base64 of at least a nonce whose
ciphertext does not authenticate. -/
theorem sealed_decryptFailed_iff (s : String) :
    (∃ e, c.decodeWith true s read = .error e ∧ e.kind = .decryptFailed) ↔
      ∃ raw, Base64.decode s = .ok raw ∧ nonceLength ≤ raw.length ∧
        Gcm.decrypt? c.cipherKey (raw.take nonceLength) (raw.drop nonceLength) = none := by
  constructor
  · rintro ⟨e, failed, kind⟩
    rcases sealed_failure_cases c read failed with
      ⟨o, -, rfl⟩ | ⟨raw, -, -, rfl⟩ | ⟨raw, hs, whole, opened, -⟩ | ⟨raw, plain, f, -, -, -, -, rfl⟩
    · simp [TokenError.kind] at kind
    · simp [TokenError.kind] at kind
    · exact ⟨raw, hs, whole, opened⟩
    · simp [TokenError.kind] at kind
  · rintro ⟨raw, hs, whole, opened⟩
    exact ⟨.undecryptable, by simp [decodeWith_sealed c read s, hs, Nat.not_lt.2 whole, opened], rfl⟩

/-- A signed token fails as an invalid format or with a bad signature, never otherwise. -/
theorem signed_failure_kind {s : String} {e : TokenError} (failed : c.decodeWith false s read = .error e) :
    e.kind = .invalidFormat ∨ e.kind = .signatureInvalid := by
  by_cases dot : '.' ∈ s.toList
  · obtain ⟨p, q, parts⟩ := exists_signedParts dot
    rcases signed_failure_cases c read parts failed with
      ⟨_, _, rfl⟩ | ⟨_, _, _, _, rfl⟩ | ⟨_, _, _, _, _, rfl⟩ | ⟨_, _, _, _, _, rfl⟩ <;>
      simp [TokenError.kind]
  · exact Or.inl (signed_no_dot_kind c read dot failed)

/-- A sealed token fails as an invalid format or to decrypt, never otherwise. -/
theorem sealed_failure_kind {s : String} {e : TokenError} (failed : c.decodeWith true s read = .error e) :
    e.kind = .invalidFormat ∨ e.kind = .decryptFailed := by
  rcases sealed_failure_cases c read failed with
    ⟨_, _, rfl⟩ | ⟨_, _, _, rfl⟩ | ⟨_, _, _, _, rfl⟩ | ⟨_, _, _, _, _, _, _, rfl⟩ <;>
    simp [TokenError.kind]

end Codec

/-- The engine reports a decoding failure as its own error of the same kind, which counts as a
decoding error. -/
theorem TokenError.wrap_of_decoding {e : TokenError}
    (decoding : e.kind = .invalidFormat ∨ e.kind = .signatureInvalid ∨ e.kind = .decryptFailed) :
    e.wrap.1 = e.kind ∧ e.wrap.1.isDecode = true := by
  cases e <;> simp_all [TokenError.kind, TokenError.wrap, FailureKind.isDecode]

namespace Codec

/-- Decoding classifies every failure. For every key, every token and every reader of a target
type: a signed token fails as an invalid format exactly when it has no dot, a part of it is not
base64, or its signature matches and its payload cannot be read; with a bad signature exactly when
both parts are base64 and the signature, of whatever length, is not the first 16 bytes of the
payload's HMAC under the key; and in no other way. A sealed token fails as an invalid format
exactly when it is not base64, is shorter than a nonce, or authenticates to a payload that cannot be
read; to decrypt exactly when it is base64 of at least a nonce and does not authenticate; and in no
other way. The engine reports each failure as its own decoding error of the same kind. -/
theorem decode_failures_classified (k : Bytes) (s : String) {α : Type} (read : Bytes → Except ReadFault α) :
    let c := ofKey k
    let mac := fun payload => (hmac c.key payload).take 16
    ((∃ e, c.decodeWith false s read = .error e ∧ e.kind = .invalidFormat) ↔
        '.' ∉ s.toList ∨ ∃ p q, SignedParts s p q ∧
          ((∃ o, Base64.decode p = .error o) ∨
            (∃ payload o, Base64.decode p = .ok payload ∧ Base64.decode q = .error o) ∨
            ∃ payload f, Base64.decode p = .ok payload ∧ Base64.decode q = .ok (mac payload) ∧
              read payload = .error f)) ∧
      ((∃ e, c.decodeWith false s read = .error e ∧ e.kind = .signatureInvalid) ↔
        ∃ p q payload sig, SignedParts s p q ∧ Base64.decode p = .ok payload ∧ Base64.decode q = .ok sig ∧
          sig ≠ mac payload) ∧
      ((∃ e, c.decodeWith true s read = .error e ∧ e.kind = .invalidFormat) ↔
        (∃ o, Base64.decode s = .error o) ∨ ∃ raw, Base64.decode s = .ok raw ∧
          (raw.length < nonceLength ∨ nonceLength ≤ raw.length ∧ ∃ plain f,
            Gcm.decrypt? c.cipherKey (raw.take nonceLength) (raw.drop nonceLength) = some plain ∧
              read plain = .error f)) ∧
      ((∃ e, c.decodeWith true s read = .error e ∧ e.kind = .decryptFailed) ↔
        ∃ raw, Base64.decode s = .ok raw ∧ nonceLength ≤ raw.length ∧
          Gcm.decrypt? c.cipherKey (raw.take nonceLength) (raw.drop nonceLength) = none) ∧
      ∀ sealed e, c.decodeWith sealed s read = .error e →
        (if sealed then e.kind = .invalidFormat ∨ e.kind = .decryptFailed
          else e.kind = .invalidFormat ∨ e.kind = .signatureInvalid) ∧
        e.wrap.1 = e.kind ∧ e.wrap.1.isDecode = true := by
  intro c mac
  refine ⟨signed_invalidFormat_iff c read s, signed_signatureInvalid_iff c read s,
    sealed_invalidFormat_iff c read s, sealed_decryptFailed_iff c read s, fun sealed e failed => ?_⟩
  -- Each mode fails in two kinds only, both of them decoding kinds.
  cases sealed with
  | false =>
    have kind := signed_failure_kind c read failed
    exact ⟨kind, TokenError.wrap_of_decoding (kind.imp id Or.inl)⟩
  | true =>
    have kind := sealed_failure_kind c read failed
    exact ⟨kind, TokenError.wrap_of_decoding (kind.imp id Or.inr)⟩

end Codec

end ViewEngine.Token
