import ViewEngine.Proofs.Text.Base64

/-! What reading URL-safe base64 accepts. The reader skips line breaks and ignores the low bits of
a short last quantum that no byte takes, so a text is not the only one that reads as its bytes.
Every text it reads is, with its line breaks dropped and those bits cleared, exactly the text the
writer gives the bytes: `encode_of_decode`. -/

namespace ViewEngine.Text.Base64

/-- Whether a byte is read, as a letter or a fault, rather than skipped as a line break. -/
def unbroken (b : UInt8) : Bool := b != 10 && b != 13

/-- The byte a sextet is written as in the URL-safe alphabet. -/
def sextetByte (n : Nat) : UInt8 := letterByte (Alphabet.url.letter n)

/-- The bytes sextets read as, four to three bytes; a short last group of two or three sextets
gives one or two bytes, its spare low bits dropped. -/
def ofSextets : List Nat → Bytes
  | a :: b :: c :: d :: rest => assemble [a, b, c, d] ++ ofSextets rest
  | short => assemble short

/-- Sextets with the low bits that no byte takes cleared: those of the last sextet of a short last
group. -/
def trim : List Nat → List Nat
  | a :: b :: c :: d :: rest => a :: b :: c :: d :: trim rest
  | [a, b, c] => [a, b, c / 4 * 4]
  | [a, b] => [a, b / 16 * 16]
  | short => short

/-- The characters of a text other than line breaks. -/
def letters (t : String) : List Char := t.toList.filter (fun c => c != '\n' && c != '\r')

/-- The sextet a one-byte character stands for in the URL-safe alphabet (zero for any other). -/
def sextetOf (c : Char) : Nat := (Alphabet.url.sextet? (letterByte c)).getD 0

/-- A text as a writer gives the bytes it reads as: line breaks dropped, and the low bits of a
short last quantum that no byte takes cleared. -/
def normalize (t : String) : String :=
  String.ofList ((trim ((letters t).map sextetOf)).map Alphabet.url.letter)

set_option maxRecDepth 8000 in
/-- A byte read as a sextet is the letter of that sextet. -/
theorem url_sextet {b : UInt8} {n : Nat} (h : Alphabet.url.sextet? b = some n) :
    n < 64 ∧ sextetByte n = b := by
  -- Checked for each of the 256 bytes.
  have all : ∀ i : Fin 256, (Alphabet.url.sextet? ⟨⟨i⟩⟩).all (fun n => n < 64 ∧ sextetByte n = ⟨⟨i⟩⟩) := by
    decide
  simpa [h] using all b.toBitVec.toFin

/-- No letter is a line break. -/
theorem unbroken_sextetByte {n : Nat} (h : n < 64) : unbroken (sextetByte n) = true := by
  revert n
  decide

/-- A quantum read from offset `pos` after the sextets `got` ends after letters and line breaks
`pre`: four sextets in all, or fewer at the end of the input (never one), and its bytes are those
sextets'. -/
theorem quantum_ok {pos : Nat} {got : List Nat} {src : Bytes} {out : Bytes} {next : Nat} {rest : Bytes}
    (h : quantum .url pos got src = .ok (out, next, rest)) (room : got.length < 4) :
    ∃ pre S, src = pre ++ rest ∧ pre.filter unbroken = S.map sextetByte ∧ (∀ x ∈ S, x < 64) ∧
      out = assemble (got ++ S) ∧ (src ≠ [] → pre ≠ []) ∧
      ((got ++ S).length = 4 ∨ rest = [] ∧ (got ++ S).length ≠ 1 ∧ (got ++ S).length < 4) := by
  induction src generalizing pos got with
  | nil =>
    -- At the end of the input the quantum is what was read so far, unless that is one sextet.
    refine ⟨[], [], ?_⟩
    rcases got with _ | ⟨g, _ | ⟨g', gs⟩⟩
    · simp only [quantum, Except.ok.injEq, Prod.mk.injEq] at h
      obtain ⟨rfl, -, rfl⟩ := h
      simp [assemble]
    · simp [quantum] at h
    · simp only [quantum, url_unpadded, Bool.false_eq_true, if_false, Except.ok.injEq,
        Prod.mk.injEq] at h
      obtain ⟨rfl, -, rfl⟩ := h
      refine ⟨rfl, rfl, by simp, by simp, by simp, .inr ⟨rfl, ?_, ?_⟩⟩
      · simp at room ⊢
      · simp at room ⊢
        omega
  | cons b more ih =>
    simp only [quantum] at h
    split at h
    · rename_i s found
      obtain ⟨small, byte⟩ := url_sextet found
      split at h
      · -- The fourth sextet closes the quantum.
        rename_i full
        simp only [Except.ok.injEq, Prod.mk.injEq] at h
        obtain ⟨rfl, -, rfl⟩ := h
        refine ⟨[b], [s], rfl, ?_, by simpa using small, rfl, by simp, .inl (by simpa using full)⟩
        rw [← byte, List.filter_cons_of_pos (unbroken_sextetByte small)]
        rfl
      · obtain ⟨pre, S, rfl, letters, small', rfl, -, ends⟩ := ih h (by simp at *; omega)
        refine ⟨b :: pre, s :: S, rfl, ?_, ?_, by simp, by simp, by simpa using ends⟩
        · rw [← byte, List.filter_cons_of_pos (byte ▸ unbroken_sextetByte small), letters, List.map_cons]
        · simpa [small] using small'
    · -- A line break is skipped; any other byte that is no letter is a fault, padding included.
      split at h
      · rename_i broken
        obtain ⟨pre, S, rfl, letters, small, rfl, -, ends⟩ := ih h room
        refine ⟨b :: pre, S, rfl, ?_, small, rfl, by simp, ends⟩
        have skipped : unbroken b = false := by
          simp only [Bool.or_eq_true, beq_iff_eq] at broken
          rcases broken with rfl | rfl <;> rfl
        rw [List.filter_cons_of_neg (by simp [skipped]), letters]
      · simp [url_unpadded] at h

/-- A whole first quantum reads as its three bytes, before the rest. -/
theorem ofSextets_append_of_length {S T : List Nat} (four : S.length = 4) :
    ofSextets (S ++ T) = assemble S ++ ofSextets T := by
  match S, four with
  | [a, b, c, d], _ => rfl

theorem ofSextets_of_length_lt {S : List Nat} (short : S.length < 4) : ofSextets S = assemble S := by
  match S, short with
  | [], _ | [_], _ | [_, _], _ | [_, _, _], _ => rfl

/-- Reading quanta until the input ends, with fuel to spare, reads the letters of the input, line
breaks skipped: sextets of any number but one more than a multiple of four, which give the bytes. -/
theorem decodeFrom_ok {fuel pos : Nat} {src bs : Bytes} (h : decodeFrom .url fuel pos src = .ok bs)
    (enough : src.length < fuel) :
    ∃ S, src.filter unbroken = S.map sextetByte ∧ (∀ x ∈ S, x < 64) ∧ S.length % 4 ≠ 1 ∧
      bs = ofSextets S := by
  induction fuel generalizing pos src bs with
  | zero => omega
  | succ fuel ih =>
    cases src with
    | nil =>
      simp only [decodeFrom, Except.ok.injEq] at h
      exact ⟨[], by simp, by simp, by simp, by simp [← h, ofSextets, assemble]⟩
    | cons b more =>
      simp only [decodeFrom] at h
      split at h
      · simp at h
      · rename_i out next rest quantum
        split at h
        · rename_i tail later
          simp only [Except.ok.injEq] at h
          subst h
          -- The first quantum takes at least one byte, so the rest fits the fuel left.
          obtain ⟨pre, S, split, letters, small, rfl, taken, ends⟩ := quantum_ok quantum (by simp)
          have shorter : rest.length < fuel := by
            have := congrArg List.length split
            have := List.length_pos_iff.2 (taken (List.cons_ne_nil b more))
            simp at *
            omega
          obtain ⟨T, letters', small', whole, rfl⟩ := ih later shorter
          refine ⟨S ++ T, ?_, ?_, ?_, ?_⟩
          · rw [split, List.filter_append, letters, letters', List.map_append]
          · intro x hx
            rcases List.mem_append.1 hx with hx | hx
            · exact small x hx
            · exact small' x hx
          · rcases ends with four | ⟨rfl, notOne, short⟩
            · simp at four
              simp [four]
              omega
            · have : T = [] := by simpa using letters'.symm
              subst this
              simp only [List.nil_append] at notOne short
              simp only [List.append_nil]
              omega
          · rcases ends with four | ⟨rfl, -, short⟩
            · simp only [List.nil_append] at four
              rw [ofSextets_append_of_length four, List.nil_append]
            · have : T = [] := by simpa using letters'.symm
              subst this
              simp only [List.nil_append] at short
              simp [ofSextets_of_length_lt short, ofSextets, assemble]
        · simp at h

/-- Written again, the bytes of sextets are those sextets, less the bits no byte takes. -/
theorem encodeChars_ofSextets :
    ∀ S : List Nat, (∀ x ∈ S, x < 64) → S.length % 4 ≠ 1 →
      encodeChars .url (ofSextets S) = (trim S).map Alphabet.url.letter
  | a :: b :: c :: d :: rest, small, whole => by
    have ha := small a (by simp)
    have hb := small b (by simp)
    have hc := small c (by simp)
    have hd := small d (by simp)
    -- A quantum of four sextets is three whole bytes, written back as the same four letters.
    have later := encodeChars_ofSextets rest (fun x hx => small x (by simp [hx]))
      (by simp at whole; omega)
    simp only [ofSextets, assemble, List.foldl, List.length, ofNat_three, List.cons_append, List.take,
      encodeChars, trim, List.map_cons, Nat.toUInt8_eq, UInt8.toNat_ofNat', List.nil_append, later,
      Nat.pow_eq, Nat.reducePow, Nat.reduceAdd, Nat.reduceSub, List.cons.injEq]
    refine ⟨?_, ?_, ?_, ?_, trivial⟩ <;> congr 1 <;> omega
  | [], _, _ => rfl
  | [_], _, one => absurd rfl one
  | [a, b], small, _ => by
    have ha := small a (by simp)
    have hb := small b (by simp)
    -- Two sextets are one byte; the low four bits of the second are spare.
    simp only [ofSextets, assemble, List.foldl, List.length, ofNat_three, List.take,
      encodeChars, trim, List.map_cons, List.map_nil, Nat.toUInt8_eq, UInt8.toNat_ofNat', Nat.pow_eq,
      Nat.reducePow, Nat.reduceAdd, Nat.reduceSub, List.cons.injEq, and_true]
    refine ⟨?_, ?_⟩ <;> congr 1 <;> omega
  | [a, b, c], small, _ => by
    have ha := small a (by simp)
    have hb := small b (by simp)
    have hc := small c (by simp)
    -- Three sextets are two bytes; the low two bits of the third are spare.
    simp only [ofSextets, assemble, List.foldl, List.length, ofNat_three, List.take,
      encodeChars, trim, List.map_cons, List.map_nil, Nat.toUInt8_eq, UInt8.toNat_ofNat', Nat.pow_eq,
      Nat.reducePow, Nat.reduceAdd, Nat.reduceSub, List.cons.injEq, and_true]
    refine ⟨?_, ?_, ?_⟩ <;> congr 1 <;> omega

/-- A character written in more than one byte starts with a byte from `0xc0` on. -/
theorem utf8_head_of_wide {c : Char} (wide : c.utf8Size ≠ 1) :
    ∃ b more, String.utf8EncodeChar c = b :: more ∧ 192 ≤ b.toNat := by
  have marked : ∀ x y : UInt8, 192 ≤ y.toNat → 192 ≤ (x ||| y).toNat := by
    intro x y h
    rw [UInt8.toNat_or]
    exact Nat.le_trans h Nat.right_le_or
  have sizes : c.utf8Size = 2 ∨ c.utf8Size = 3 ∨ c.utf8Size = 4 := by
    have := c.utf8Size_pos
    have := c.utf8Size_le_four
    omega
  rcases sizes with two | three | four
  · exact ⟨_, _, String.utf8EncodeChar_eq_cons_cons two, marked _ _ (by decide)⟩
  · exact ⟨_, _, String.utf8EncodeChar_eq_cons_cons_cons three, marked _ _ (by decide)⟩
  · exact ⟨_, _, String.utf8EncodeChar_eq_cons_cons_cons_cons four, marked _ _ (by decide)⟩

/-- The bytes of a text are its characters' encodings, one after another. -/
theorem toUTF8_eq_flatMap (t : String) : t.toUTF8.toList = t.toList.flatMap String.utf8EncodeChar := by
  conv => lhs; rw [← String.ofList_toList (s := t)]
  rw [ByteArray.toList_eq_data]
  simp only [String.toUTF8_eq_toByteArray, String.toByteArray_ofList, List.utf8Encode,
    List.data_toByteArray, List.toList_toArray]

/-- Every letter is a one-byte character. -/
theorem sextetByte_lt {n : Nat} (h : n < 64) : (sextetByte n).toNat < 128 := by
  revert n
  decide

/-- A text that reads as base64 has only one-byte characters: the first byte of any other is
neither a letter nor a line break. -/
theorem ascii_of_decode {t : String} {bs : Bytes} (h : decode t = .ok bs) : ∀ c ∈ t.toList, c.utf8Size = 1 := by
  obtain ⟨S, letters, small, -, -⟩ := decodeFrom_ok h (by simp)
  intro c mem
  refine Decidable.byContradiction fun wide => ?_
  obtain ⟨b, more, first, high⟩ := utf8_head_of_wide wide
  have kept : b ∈ t.toUTF8.toList.filter unbroken := by
    refine List.mem_filter.2 ⟨?_, ?_⟩
    · rw [toUTF8_eq_flatMap]
      exact List.mem_flatMap.2 ⟨c, mem, first ▸ List.mem_cons_self⟩
    · have : b ≠ 10 ∧ b ≠ 13 := by
        constructor <;> (intro same; subst same; simp at high)
      simp [unbroken, this]
  rw [letters] at kept
  obtain ⟨x, hx, rfl⟩ := List.mem_map.1 kept
  have := sextetByte_lt (small x hx)
  omega

/-- A one-byte character is a line break exactly when its byte is. -/
theorem unbroken_letterByte {c : Char} (ascii : c.utf8Size = 1) :
    unbroken (letterByte c) = (c != '\n' && c != '\r') := by
  have below : c.toNat < 128 := by
    have := UInt32.le_iff_toNat_le.1 (Char.utf8Size_eq_one_iff.1 ascii)
    exact Nat.lt_succ_of_le this
  have all : ∀ i : Fin 128, unbroken (letterByte (Char.ofNat i)) =
      (Char.ofNat i != '\n' && Char.ofNat i != '\r') := by
    decide
  simpa [Char.ofNat_toNat] using all ⟨c.toNat, below⟩

/-- What reading a text accepts: the bytes it reads as, written again, are the text itself with
its line breaks dropped and the bits that no byte takes cleared. -/
theorem encode_of_decode {t : String} {bs : Bytes} (h : decode t = .ok bs) : encode bs = normalize t := by
  obtain ⟨S, read, small, whole, rfl⟩ := decodeFrom_ok h (by simp)
  have ascii := ascii_of_decode h
  -- Only one-byte characters: the bytes read are the characters' own.
  have bytes : t.toUTF8.toList = t.toList.map letterByte := by
    conv => lhs; rw [← String.ofList_toList (s := t)]
    exact utf8_of_ascii t.toList ascii
  have lettersBytes : (letters t).map letterByte = S.map sextetByte := by
    rw [← read, bytes, List.filter_map, letters]
    congr 1
    exact List.filter_congr (fun c mem => (unbroken_letterByte (ascii c mem)).symm)
  have sextets : (letters t).map sextetOf = S := by
    have back : ∀ x ∈ S, (Alphabet.url.sextet? (sextetByte x)).getD 0 = x := by
      intro x hx
      simp [sextetByte, (url_letter (small x hx)).2.2]
    calc (letters t).map sextetOf
        = ((letters t).map letterByte).map (fun b => (Alphabet.url.sextet? b).getD 0) := by
          simp [sextetOf, Function.comp_def]
      _ = S := by
          rw [lettersBytes, List.map_map]
          exact List.map_congr_left back |>.trans (List.map_id S)
  rw [encode, normalize, sextets, encodeChars_ofSextets S small whole]

/-- A spare bit set in the last letter and a line break are both read past. -/
example : normalize "w\nx" = encode [0xc3] := by decide

end ViewEngine.Text.Base64
