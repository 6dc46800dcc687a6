import ViewEngine.Token.Gcm
import ViewEngine.Token.Sha256

/-! The cipher's round trip: a 32-byte key expands to fifteen round keys of sixteen bytes, so every
block AES encrypts is sixteen bytes, the counter-mode stream is at least as long as the text, and
AES-GCM opens what it sealed under the same key and nonce. -/

namespace ViewEngine

namespace Bytes

/-- Cutting a list whose length is a multiple of the size gives whole pieces only: each piece has
the size, and there are as many as the size goes into the length. -/
theorem chunks_whole {α : Type} {size : Nat} {xs : List α} (pos : 0 < size) (whole : size ∣ xs.length) :
    (∀ c ∈ chunks size xs, c.length = size) ∧ (chunks size xs).length * size = xs.length := by
  induction xs using chunks.induct size with
  | case1 xs _ empty =>
    rw [chunks]
    simp_all
  | case2 xs short nonempty =>
    -- A nonempty list no longer than the size, whose length the size divides, is one piece.
    have nonzero : xs.length ≠ 0 := by simpa [List.isEmpty_iff] using nonempty
    have exact : xs.length = size := by
      have := Nat.le_of_dvd (by omega) whole
      omega
    rw [chunks]
    simp [nonempty, exact]
  | case3 xs long ih =>
    have rest := ih (by simp only [List.length_drop]; exact Nat.dvd_sub whole (Nat.dvd_refl _))
    rw [chunks, if_neg long]
    refine ⟨fun c hc => ?_, ?_⟩
    · rcases List.mem_cons.1 hc with rfl | later
      · simp only [List.length_take]; omega
      · exact rest.1 c later
    · simp only [List.length_cons, List.length_drop] at rest ⊢
      rw [Nat.add_mul, rest.2]
      omega

/-- XOR with the same stream twice gives the text back while the stream is long enough. -/
theorem xor_xor (a k : Bytes) (long : a.length ≤ k.length) : xor (xor a k) k = a := by
  induction a generalizing k with
  | nil => rfl
  | cons x a ih =>
    match k, long with
    | y :: k, long =>
      simp only [xor, List.zipWith_cons_cons] at ih ⊢
      rw [ih k (by simp at long; omega), UInt8.xor_assoc, UInt8.xor_self, UInt8.xor_zero]

end Bytes

namespace Token

/-- A digest is 32 bytes: eight words of four. -/
@[simp] theorem Sha256.length_hash (msg : Bytes) : (Sha256.hash msg).length = 32 := by
  simp [Sha256.hash, Sha256.wordBytes]

namespace Aes

/-- A word of the key schedule extended after `recent` is four bytes long, as all before it. -/
theorem extendSchedule_words (n i : Nat) (recent : List Bytes) (enough : 8 ≤ recent.length)
    (words : ∀ w ∈ recent, w.length = 4) :
    (extendSchedule n i recent).length = recent.length + n ∧
      ∀ w ∈ extendSchedule n i recent, w.length = 4 := by
  induction n generalizing i recent with
  | zero => exact ⟨rfl, words⟩
  | succ n ih =>
    have prev : (recent.headD [0, 0, 0, 0]).length = 4 := by
      cases recent with
      | nil => rfl
      | cons w _ => exact words w (by simp)
    have back : (recent.getD 7 []).length = 4 := by
      rw [List.getD_eq_getElem?_getD, List.getElem?_eq_getElem (by omega)]
      exact words _ (List.getElem_mem _)
    rw [extendSchedule]
    refine (ih (i + 1) _ ?_ ?_).imp (fun count => ?_) id
    · rw [List.length_cons]; omega
    · intro w hw
      rcases List.mem_cons.1 hw with rfl | old
      · -- The transform rotates, substitutes or keeps the four bytes of the previous word.
        rw [Bytes.length_xor, back]
        generalize recent.headD [0, 0, 0, 0] = p at prev ⊢
        match p, prev with
        | [a, b, c, d], _ =>
          split
          · simp [Bytes.xor]
          · split <;> simp
      · exact words w old
    · rw [count, List.length_cons]; omega

/-- Round keys fit for encryption: fifteen of sixteen bytes each. -/
structure Fit (keys : List Bytes) : Prop where
  count : keys.length = 15
  width : ∀ k ∈ keys, k.length = 16

/-- A 32-byte key expands to fifteen round keys of sixteen bytes. -/
theorem roundKeys_fit {key : Bytes} (h : key.length = 32) : Fit (roundKeys key) := by
  -- Eight words of the key, fifty-two more from the schedule, sixty words of four bytes in all.
  obtain ⟨initialWidth, initialCount⟩ :=
    @Bytes.chunks_whole _ 4 key (by decide) (by rw [h]; decide)
  obtain ⟨count, width⟩ := extendSchedule_words 52 8 (Bytes.chunks 4 key).reverse
    (by rw [List.length_reverse]; omega) (fun w hw => initialWidth w (List.mem_reverse.1 hw))
  have flat : ((extendSchedule 52 8 (Bytes.chunks 4 key).reverse).reverse.flatten).length = 240 := by
    rw [List.length_flatten, List.map_congr_left (fun w hw => width w (List.mem_reverse.1 hw))]
    simp only [List.map_const', List.sum_replicate_nat, List.length_reverse, count]
    omega
  obtain ⟨keyWidth, keyCount⟩ := @Bytes.chunks_whole _ 16 _ (by decide) (by rw [flat]; decide)
  exact ⟨by simp only [roundKeys]; omega, keyWidth⟩

theorem length_shiftRows (s : Bytes) : (shiftRows s).length = 16 := by simp [shiftRows]

/-- Encryption under fit round keys gives a block of sixteen bytes, whatever the input. -/
theorem length_encrypt {keys : List Bytes} (fit : Fit keys) (block : Bytes) :
    (encrypt keys block).length = 16 := by
  match keys, fit with
  | first :: rest, fit =>
    have last : (rest.getD 13 []).length = 16 := by
      have : 13 < rest.length := by have := fit.count; simp at this; omega
      rw [List.getD_eq_getElem?_getD, List.getElem?_eq_getElem this]
      exact fit.width _ (List.mem_cons_of_mem _ (List.getElem_mem _))
    simp only [encrypt, Bytes.length_xor, length_shiftRows, last, Nat.min_self]

end Aes

namespace Gcm

variable {keys : List Bytes}

theorem length_keystream (fit : Aes.Fit keys) (n : Nat) (counter : Bytes) :
    (keystream keys n counter).length = 16 * n := by
  induction n generalizing counter with
  | zero => rfl
  | succ n ih => simp only [keystream, List.length_append, Aes.length_encrypt fit, ih]; omega

theorem length_counterMode (fit : Aes.Fit keys) (nonce text : Bytes) :
    (counterMode keys nonce text).length = text.length := by
  simp only [counterMode, Bytes.length_xor, length_keystream fit]
  omega

/-- Counter mode undoes itself: the ciphertext is as long as the text, so the second pass XORs
with the same stream. -/
theorem counterMode_counterMode (fit : Aes.Fit keys) (nonce text : Bytes) :
    counterMode keys nonce (counterMode keys nonce text) = text := by
  rw [counterMode, length_counterMode fit, counterMode, Bytes.xor_xor]
  rw [length_keystream fit]
  omega

theorem length_tag (fit : Aes.Fit keys) (nonce cipher : Bytes) : (tag keys nonce cipher).length = 16 := by
  simp only [tag, ghash, Bytes.length_xor, Bytes.length_ofNat, Aes.length_encrypt fit, Nat.min_self]

/-- Opening what was sealed under a 32-byte key and the same nonce gives the text back: the tag is
the last sixteen bytes, it matches, and the ciphertext before it deciphers to the text. -/
theorem decrypt_encrypt {key : Bytes} (h : key.length = 32) (nonce plain : Bytes) :
    decrypt? key nonce (encrypt key nonce plain) = some plain := by
  have fit := Aes.roundKeys_fit h
  have cipherLength := length_counterMode fit nonce plain
  have tagLength := length_tag fit nonce (counterMode (Aes.roundKeys key) nonce plain)
  simp only [decrypt?, encrypt, List.length_append, cipherLength, tagLength]
  simp [List.take_left', List.drop_left', cipherLength, counterMode_counterMode fit]

end Gcm

end Token

end ViewEngine
