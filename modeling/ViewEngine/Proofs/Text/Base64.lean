import ViewEngine.Text.Base64

/-! URL-safe base64 reads back what it wrote: every letter of a written text is an ASCII byte of
the alphabet, each group of four letters is one quantum of three bytes, and a short tail of two or
three letters is the last quantum. -/

namespace ViewEngine

/-- The bytes of a byte array, in order, are those of its underlying array. -/
theorem ByteArray.toList_eq_data (bs : ByteArray) : bs.toList = bs.data.toList := by
  -- The loop conses each byte in front of the reversed prefix it has read so far.
  have loop : ∀ i r, ByteArray.toList.loop bs i r = r.reverse ++ bs.data.toList.drop i := by
    intro i r
    fun_induction ByteArray.toList.loop bs i r with
    | case1 i r h ih =>
      have next : bs.data.toList.drop i = bs.get! i :: bs.data.toList.drop (i + 1) := by
        rw [List.drop_eq_getElem_cons (by simpa using h)]
        simp [ByteArray.get!, getElem!_pos bs.data i (by simpa using h)]
      simp [ih, next]
    | case2 i r h =>
      have rest : bs.data.toList.drop i = [] := List.drop_eq_nil_of_le (by simp at h ⊢; omega)
      simp [rest]
  simp [ByteArray.toList, loop]

namespace Text.Base64

/-- The byte a one-byte character is written as. -/
def letterByte (c : Char) : UInt8 := c.val.toUInt8

/-- The UTF-8 bytes of a text of one-byte characters are those characters' bytes. -/
theorem utf8_of_ascii (cs : List Char) (ascii : ∀ c ∈ cs, c.utf8Size = 1) :
    (String.ofList cs).toUTF8.toList = cs.map letterByte := by
  rw [ByteArray.toList_eq_data]
  simp only [String.toUTF8_eq_toByteArray, String.toByteArray_ofList, List.utf8Encode,
    List.data_toByteArray, List.toList_toArray]
  induction cs with
  | nil => rfl
  | cons c cs ih =>
    simp only [List.flatMap_cons, List.map_cons]
    rw [String.utf8EncodeChar_eq_singleton (ascii c (by simp)),
      ih (fun d hd => ascii d (List.mem_cons_of_mem c hd))]
    rfl

/-- Each of the 64 URL-safe letters is one byte long, is no dot, and reads back as its sextet. -/
theorem url_letter {n : Nat} (h : n < 64) :
    (Alphabet.url.letter n).utf8Size = 1 ∧ Alphabet.url.letter n ≠ '.' ∧
      Alphabet.url.sextet? (letterByte (Alphabet.url.letter n)) = some n := by
  -- Sixty-four closed cases.
  revert n
  decide

theorem url_unpadded : Alphabet.url.padded = false := rfl

/-- Every character written is the letter of a sextet. -/
theorem mem_encodeChars {a : Alphabet} {bs : Bytes} {c : Char} (h : c ∈ encodeChars a bs) :
    ∃ n < 64, c = a.letter n := by
  -- Each letter is written from a number of at most 24 bits, divided down or taken modulo 64.
  fun_induction encodeChars a bs with
  | case1 x y z rest v ih =>
    have hx := x.toNat_lt_size
    have hy := y.toNat_lt_size
    have hz := z.toNat_lt_size
    simp only [UInt8.size] at hx hy hz
    simp only [List.mem_cons] at h
    rcases h with rfl | rfl | rfl | rfl | later
    · exact ⟨_, by omega, rfl⟩
    · exact ⟨_, Nat.mod_lt _ (by decide), rfl⟩
    · exact ⟨_, Nat.mod_lt _ (by decide), rfl⟩
    · exact ⟨_, Nat.mod_lt _ (by decide), rfl⟩
    · exact ih later
  | case2 x y v =>
    have hx := x.toNat_lt_size
    have hy := y.toNat_lt_size
    simp only [UInt8.size] at hx hy
    simp only [List.mem_cons, List.not_mem_nil, or_false] at h
    rcases h with rfl | rfl | rfl
    · exact ⟨_, by omega, rfl⟩
    · exact ⟨_, Nat.mod_lt _ (by decide), rfl⟩
    · exact ⟨_, Nat.mod_lt _ (by decide), rfl⟩
  | case3 x =>
    have hx := x.toNat_lt_size
    simp only [UInt8.size] at hx
    simp only [List.mem_cons, List.not_mem_nil, or_false] at h
    rcases h with rfl | rfl
    · exact ⟨_, by omega, rfl⟩
    · exact ⟨_, by omega, rfl⟩
  | case4 => simp at h

/-- A written text holds no dot, so a dot can separate two of them. -/
theorem dot_not_mem_encode (bs : Bytes) : '.' ∉ (encode bs).toList := by
  intro h
  rw [encode, String.toList_ofList] at h
  obtain ⟨n, hn, same⟩ := mem_encodeChars h
  exact (url_letter hn).2.1 same.symm

/-- The bytes of a written text are the letters' bytes. -/
theorem encode_toUTF8 (bs : Bytes) : (encode bs).toUTF8.toList = (encodeChars .url bs).map letterByte := by
  apply utf8_of_ascii
  intro c hc
  obtain ⟨n, hn, rfl⟩ := mem_encodeChars hc
  exact (url_letter hn).1

/-- The three bytes of a number below `2 ^ 24`, most significant first. -/
theorem ofNat_three (n : Nat) :
    Bytes.ofNat 3 n = [(n / 65536 % 256).toUInt8, (n / 256 % 256).toUInt8, (n % 256).toUInt8] := by
  simp [Bytes.ofNat, List.range_succ]

theorem ofNat_three_bytes (x y z : UInt8) :
    Bytes.ofNat 3 (x.toNat * 65536 + y.toNat * 256 + z.toNat) = [x, y, z] := by
  rw [ofNat_three]
  have hx := x.toNat_lt_size
  have hy := y.toNat_lt_size
  have hz := z.toNat_lt_size
  simp only [UInt8.size] at hx hy hz
  have high : (x.toNat * 65536 + y.toNat * 256 + z.toNat) / 65536 % 256 = x.toNat := by omega
  have middle : (x.toNat * 65536 + y.toNat * 256 + z.toNat) / 256 % 256 = y.toNat := by omega
  have low : (x.toNat * 65536 + y.toNat * 256 + z.toNat) % 256 = z.toNat := by omega
  simp [high, middle, low]

theorem decodeFrom_nil (a : Alphabet) (fuel pos : Nat) : decodeFrom a fuel pos [] = .ok [] := by
  cases fuel <;> rfl

/-- Reading the bytes of the letters written for bytes gives those bytes back, given more fuel
than letters. -/
theorem decodeFrom_encodeChars (bs : Bytes) (fuel pos : Nat) (h : (encodeChars .url bs).length < fuel) :
    decodeFrom .url fuel pos ((encodeChars .url bs).map letterByte) = .ok bs := by
  -- One case per group the writer takes: three bytes are one full quantum of four letters and
  -- the reading goes on after it; two or one bytes leave three or two letters that the end of the
  -- input closes, unpadded.
  fun_induction encodeChars Alphabet.url bs generalizing fuel pos with
  | case1 x y z rest v ih =>
    obtain ⟨fuel, rfl⟩ : ∃ f, fuel = f + 1 := ⟨fuel - 1, by omega⟩
    have hx := x.toNat_lt_size
    have hy := y.toNat_lt_size
    have hz := z.toNat_lt_size
    simp only [UInt8.size] at hx hy hz
    have h0 : v / 262144 < 64 := by omega
    have h1 : v / 4096 % 64 < 64 := Nat.mod_lt _ (by decide)
    have h2 : v / 64 % 64 < 64 := Nat.mod_lt _ (by decide)
    have h3 : v % 64 < 64 := Nat.mod_lt _ (by decide)
    have later := ih fuel (pos + 1 + 1 + 1 + 1) (by simp at h; omega)
    have assembled : assemble [v / 262144, v / 4096 % 64, v / 64 % 64, v % 64] = [x, y, z] := by
      have whole : (((0 * 64 + v / 262144) * 64 + v / 4096 % 64) * 64 + v / 64 % 64) * 64 + v % 64 = v := by
        omega
      simp only [assemble, List.foldl, List.length, whole]
      show List.take 3 (Bytes.ofNat 3 (v * 1)) = _
      rw [Nat.mul_one, ofNat_three_bytes]
      rfl
    simp [decodeFrom, quantum, assembled, (url_letter h0).2.2, (url_letter h1).2.2, (url_letter h2).2.2,
      (url_letter h3).2.2, later]
  | case2 x y v =>
    obtain ⟨fuel, rfl⟩ : ∃ f, fuel = f + 1 := ⟨fuel - 1, by omega⟩
    have hx := x.toNat_lt_size
    have hy := y.toNat_lt_size
    simp only [UInt8.size] at hx hy
    have h0 : v / 262144 < 64 := by omega
    have h1 : v / 4096 % 64 < 64 := Nat.mod_lt _ (by decide)
    have h2 : v / 64 % 64 < 64 := Nat.mod_lt _ (by decide)
    have assembled : assemble [v / 262144, v / 4096 % 64, v / 64 % 64] = [x, y] := by
      -- The low six bits of the two bytes' number are zero, so three letters carry it whole.
      have whole : ((0 * 64 + v / 262144) * 64 + v / 4096 % 64) * 64 + v / 64 % 64 = v / 64 := by
        omega
      have exact : v / 64 * 64 = v := by omega
      have bytes := ofNat_three_bytes x y 0
      simp only [UInt8.toNat_zero, Nat.add_zero] at bytes
      simp only [assemble, List.foldl, List.length, whole]
      show List.take 2 (Bytes.ofNat 3 (v / 64 * 64)) = _
      rw [exact, show v = x.toNat * 65536 + y.toNat * 256 from rfl, bytes]
      rfl
    simp [decodeFrom, quantum, assembled, (url_letter h0).2.2, (url_letter h1).2.2, (url_letter h2).2.2,
      decodeFrom_nil, url_unpadded]
  | case3 x =>
    obtain ⟨fuel, rfl⟩ : ∃ f, fuel = f + 1 := ⟨fuel - 1, by omega⟩
    have hx := x.toNat_lt_size
    simp only [UInt8.size] at hx
    have h0 : x.toNat / 4 < 64 := by omega
    have h1 : x.toNat % 4 * 16 < 64 := by omega
    have assembled : assemble [x.toNat / 4, x.toNat % 4 * 16] = [x] := by
      have whole : ((0 * 64 + x.toNat / 4) * 64 + x.toNat % 4 * 16) * 4096 = x.toNat * 65536 := by
        omega
      have bytes := ofNat_three_bytes x 0 0
      simp only [UInt8.toNat_zero, Nat.zero_mul, Nat.add_zero] at bytes
      simp only [assemble, List.foldl, List.length]
      show List.take 1 (Bytes.ofNat 3 (((0 * 64 + x.toNat / 4) * 64 + x.toNat % 4 * 16) * 4096)) = _
      rw [whole, bytes]
      rfl
    simp [decodeFrom, quantum, assembled, (url_letter h0).2.2, (url_letter h1).2.2, decodeFrom_nil,
      url_unpadded]
  | case4 => exact decodeFrom_nil .url fuel pos

/-- Reading a written text gives back the bytes it was written from. -/
theorem decode_encode (bs : Bytes) : decode (encode bs) = .ok bs := by
  simp only [decode, decodeWith, encode_toUTF8]
  exact decodeFrom_encodeChars bs _ 0 (by simp)

end Text.Base64

end ViewEngine
