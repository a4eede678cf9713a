import EnvRegistry.Text.Utf8

/-! # Texts and their bytes

    What a text is kept as reads back as the text: `decode?` undoes `encode`
    (`decode?_encode`), and so does `decodeLossy`, which then replaces nothing
    (`decodeLossy_encode`).

    The decoder takes one byte at a time.  One lemma says what each kind of byte does
    to it, and together they say that the bytes of a character bring it from between
    two characters to between two characters (`decodeFrom_char`). -/

namespace EnvRegistry.Text

/-! ## Section 1: The bytes of a text -/

theorem toList_loop (bytes : ByteArray) (i : Nat) (acc : List UInt8) :
    ByteArray.toList.loop bytes i acc = acc.reverse ++ bytes.data.toList.drop i := by
  have hsize : bytes.data.toList.length = bytes.size := rfl
  induction h : bytes.size - i generalizing i acc with
  | zero =>
    rw [ByteArray.toList.loop, if_neg (by omega), List.drop_eq_nil_of_le (by omega),
      List.append_nil]
  | succ n ih =>
    have hi : i < bytes.data.toList.length := by omega
    have hget : bytes.get! i = bytes.data.toList[i] := by
      show bytes.data[i]! = _
      rw [getElem!_pos bytes.data i hi, Array.getElem_toList]
    rw [ByteArray.toList.loop, if_pos (by omega), ih (i + 1) _ (by omega),
      List.drop_eq_getElem_cons hi, hget, List.reverse_cons, List.append_assoc]
    rfl

/-- The bytes of a text are those of its characters. -/
theorem encode_eq (s : String) : encode s = s.toList.flatMap String.utf8EncodeChar := by
  rw [encode, ByteArray.toList, toList_loop, List.reverse_nil, List.nil_append, List.drop_zero,
    String.toUTF8_eq_toByteArray, ← String.utf8Encode_toList, List.utf8Encode,
    List.toList_data_toByteArray]

/-! ## Section 2: One byte -/

variable {acc : List (Option Char)} {b : UInt8} {rest : List UInt8}

/-- A byte that is a character. -/
theorem decodeFrom_single (hb : b.toNat < 0x80) :
    decodeFrom acc none (b :: rest) = decodeFrom (some (Char.ofNat b.toNat) :: acc) none rest := by
  have hlt : b < 0x80 := UInt8.lt_iff_toNat_lt.mpr hb
  rw [decodeFrom]
  simp only [if_pos hlt]

/-- A byte that begins a character. -/
theorem decodeFrom_lead {following bits : Nat} {least greatest : UInt8} (hb : 0x80 ≤ b.toNat)
    (hl : lead? b = some ⟨following, bits, least, greatest⟩) :
    decodeFrom acc none (b :: rest) =
      decodeFrom acc (some ⟨following, bits, least, greatest⟩) rest := by
  have hge : ¬ b < 0x80 := by
    rw [UInt8.lt_iff_toNat_lt]
    exact Nat.not_lt.mpr hb
  rw [decodeFrom]
  simp only [if_neg hge, hl]

/-- A byte that goes on with a character gives six bits of it. -/
theorem toNat_tail (n : Nat) : (UInt8.ofNat (n % 64 + 128)).toNat = n % 64 + 128 := by
  rw [UInt8.toNat_ofNat']
  omega

section Tail

variable {missing bits n : Nat} {least greatest : UInt8}

/-- A byte that goes on with a character that misses more bytes. -/
theorem decodeFrom_next (hleast : least.toNat ≤ n % 64 + 128)
    (hgreatest : n % 64 + 128 ≤ greatest.toNat) :
    decodeFrom acc (some ⟨missing + 2, bits, least, greatest⟩)
        (UInt8.ofNat (n % 64 + 128) :: rest) =
      decodeFrom acc (some ⟨missing + 1, 64 * bits + n % 64, 0x80, 0xBF⟩) rest := by
  have hrange : (least ≤ UInt8.ofNat (n % 64 + 128) &&
      UInt8.ofNat (n % 64 + 128) ≤ greatest) = true := by
    rw [Bool.and_eq_true, decide_eq_true_iff, decide_eq_true_iff, UInt8.le_iff_toNat_le,
      UInt8.le_iff_toNat_le, toNat_tail]
    exact ⟨hleast, hgreatest⟩
  rw [decodeFrom]
  have hmissing : ¬ missing + 2 ≤ 1 := by omega
  simp only [if_pos hrange, if_neg hmissing, toNat_tail, Nat.add_sub_cancel]
  rfl

/-- A byte that ends a character. -/
theorem decodeFrom_last (hleast : least.toNat ≤ n % 64 + 128)
    (hgreatest : n % 64 + 128 ≤ greatest.toNat) :
    decodeFrom acc (some ⟨1, bits, least, greatest⟩) (UInt8.ofNat (n % 64 + 128) :: rest) =
      decodeFrom (some (Char.ofNat (64 * bits + n % 64)) :: acc) none rest := by
  have hrange : (least ≤ UInt8.ofNat (n % 64 + 128) &&
      UInt8.ofNat (n % 64 + 128) ≤ greatest) = true := by
    rw [Bool.and_eq_true, decide_eq_true_iff, decide_eq_true_iff, UInt8.le_iff_toNat_le,
      UInt8.le_iff_toNat_le, toNat_tail]
    exact ⟨hleast, hgreatest⟩
  rw [decodeFrom]
  simp only [if_pos hrange, toNat_tail, Nat.add_sub_cancel, Nat.le_refl, if_true]

end Tail

/-! ## Section 3: The first byte of a character -/

theorem lead?_two (h : 0xC2 ≤ b.toNat) (h' : b.toNat < 0xE0) :
    lead? b = some ⟨1, b.toNat - 0xC0, 0x80, 0xBF⟩ := by
  simp [lead?, UInt8.le_iff_toNat_le, UInt8.lt_iff_toNat_lt, h, h']

theorem lead?_three (h : 0xE0 ≤ b.toNat) (h' : b.toNat < 0xF0) :
    lead? b = some ⟨2, b.toNat - 0xE0, if b.toNat = 0xE0 then 0xA0 else 0x80,
      if b.toNat = 0xED then 0x9F else 0xBF⟩ := by
  have htwo : ¬ b.toNat < 0xE0 := by omega
  unfold lead?
  by_cases hfirst : b = 0xE0
  · subst hfirst
    rfl
  · by_cases hsurrogate : b = 0xED
    · subst hsurrogate
      rfl
    · have hn : b.toNat ≠ 0xE0 := fun hn => hfirst (UInt8.toNat_inj.mp hn)
      have hn' : b.toNat ≠ 0xED := fun hn => hsurrogate (UInt8.toNat_inj.mp hn)
      have hthree : 0xE1 ≤ b.toNat := by omega
      simp [UInt8.le_iff_toNat_le, UInt8.lt_iff_toNat_lt, htwo, hfirst, hsurrogate, hthree, h', hn,
        hn']

theorem lead?_four (h : 0xF0 ≤ b.toNat) (h' : b.toNat ≤ 0xF4) :
    lead? b = some ⟨3, b.toNat - 0xF0, if b.toNat = 0xF0 then 0x90 else 0x80,
      if b.toNat = 0xF4 then 0x8F else 0xBF⟩ := by
  have htwo : ¬ b.toNat < 0xE0 := by omega
  have hthree : ¬ b.toNat < 0xF0 := by omega
  have hne : b ≠ 0xE0 := fun hb => absurd (congrArg UInt8.toNat hb) (by simp; omega)
  have hne' : b ≠ 0xED := fun hb => absurd (congrArg UInt8.toNat hb) (by simp; omega)
  unfold lead?
  by_cases hfirst : b = 0xF0
  · subst hfirst
    rfl
  · by_cases hlast : b = 0xF4
    · subst hlast
      rfl
    · have hn : b.toNat ≠ 0xF0 := fun hn => hfirst (UInt8.toNat_inj.mp hn)
      have hn' : b.toNat ≠ 0xF4 := fun hn => hlast (UInt8.toNat_inj.mp hn)
      have hmiddle : 0xF1 ≤ b.toNat ∧ b.toNat < 0xF4 := by omega
      simp [UInt8.le_iff_toNat_le, UInt8.lt_iff_toNat_lt, htwo, hthree, hne, hne', hfirst,
        hmiddle, hn, hn']

/-! ## Section 4: All bytes of a character -/

variable {v : Nat}

theorem decodeFrom_two (h : 0x7F < v) (h' : v ≤ 0x7FF) :
    decodeFrom acc none (UInt8.ofNat (v / 64 % 32 + 192) :: UInt8.ofNat (v % 64 + 128) :: rest) =
      decodeFrom (some (Char.ofNat v) :: acc) none rest := by
  have hfirst : (UInt8.ofNat (v / 64 % 32 + 192)).toNat = v / 64 + 192 := by
    rw [UInt8.toNat_ofNat']
    omega
  have hvalue : 64 * (v / 64 + 192 - 0xC0) + v % 64 = v := by omega
  rw [decodeFrom_lead (by omega) (lead?_two (by omega) (by omega)), hfirst,
    decodeFrom_last (by simp) (by simp; omega), hvalue]

/-- The second byte of three is not below what the first one asks for, since no two bytes would
do, and not above, since the character is no half of a pair. -/
theorem decodeFrom_three (h : 0x7FF < v) (h' : v ≤ 0xFFFF) (hpair : v < 0xD800 ∨ 0xDFFF < v) :
    decodeFrom acc none (UInt8.ofNat (v / 4096 % 16 + 224) :: UInt8.ofNat (v / 64 % 64 + 128) ::
        UInt8.ofNat (v % 64 + 128) :: rest) =
      decodeFrom (some (Char.ofNat v) :: acc) none rest := by
  have hfirst : (UInt8.ofNat (v / 4096 % 16 + 224)).toNat = v / 4096 + 224 := by
    rw [UInt8.toNat_ofNat']
    omega
  have hleast : (if v / 4096 + 224 = 0xE0 then 0xA0 else 0x80 : UInt8).toNat ≤
      v / 64 % 64 + 128 := by
    split
    · show 0xA0 ≤ _
      omega
    · exact Nat.le_add_left 128 _
  have hgreatest : v / 64 % 64 + 128 ≤
      (if v / 4096 + 224 = 0xED then 0x9F else 0xBF : UInt8).toNat := by
    split
    · show _ ≤ 0x9F
      omega
    · show _ ≤ 0xBF
      omega
  have hvalue : 64 * (64 * (v / 4096 + 224 - 0xE0) + v / 64 % 64) + v % 64 = v := by omega
  rw [decodeFrom_lead (by omega) (lead?_three (by omega) (by omega)), hfirst,
    decodeFrom_next hleast hgreatest, decodeFrom_last (by simp) (by simp; omega),
    hvalue]

/-- The second byte of four is not below what the first one asks for, since no three bytes would
do, and not above, since no character is greater. -/
theorem decodeFrom_four (h : 0xFFFF < v) (h' : v < 0x110000) :
    decodeFrom acc none (UInt8.ofNat (v / 262144 % 8 + 240) ::
        UInt8.ofNat (v / 4096 % 64 + 128) :: UInt8.ofNat (v / 64 % 64 + 128) ::
        UInt8.ofNat (v % 64 + 128) :: rest) =
      decodeFrom (some (Char.ofNat v) :: acc) none rest := by
  have hfirst : (UInt8.ofNat (v / 262144 % 8 + 240)).toNat = v / 262144 + 240 := by
    rw [UInt8.toNat_ofNat']
    omega
  have hleast : (if v / 262144 + 240 = 0xF0 then 0x90 else 0x80 : UInt8).toNat ≤
      v / 4096 % 64 + 128 := by
    split
    · show 0x90 ≤ _
      omega
    · exact Nat.le_add_left 128 _
  have hgreatest : v / 4096 % 64 + 128 ≤
      (if v / 262144 + 240 = 0xF4 then 0x8F else 0xBF : UInt8).toNat := by
    split
    · show _ ≤ 0x8F
      omega
    · show _ ≤ 0xBF
      omega
  have hvalue : 64 * (64 * (64 * (v / 262144 + 240 - 0xF0) + v / 4096 % 64) + v / 64 % 64) +
      v % 64 = v := by omega
  rw [decodeFrom_lead (by omega) (lead?_four (by omega) (by omega)), hfirst,
    decodeFrom_next hleast hgreatest, decodeFrom_next (by simp) (by simp; omega),
    decodeFrom_last (by simp) (by simp; omega), hvalue]

/-- The bytes of a character are decoded as the character. -/
theorem decodeFrom_char (c : Char) :
    decodeFrom acc none (String.utf8EncodeChar c ++ rest) =
      decodeFrom (some c :: acc) none rest := by
  have hc : Char.ofNat c.val.toNat = c := Char.ofNat_toNat c
  have hvalid : c.val.toNat < 0xD800 ∨ 0xDFFF < c.val.toNat ∧ c.val.toNat < 0x110000 := c.valid
  rw [String.utf8EncodeChar]
  generalize c.val.toNat = v at hc hvalid ⊢
  subst hc
  by_cases hone : v ≤ 0x7F
  · have hbyte : (UInt8.ofNat v).toNat = v := by
      rw [UInt8.toNat_ofNat']
      omega
    rw [if_pos hone, List.singleton_append, decodeFrom_single (by omega), hbyte]
  · by_cases htwo : v ≤ 0x7FF
    · rw [if_neg hone, if_pos htwo]
      exact decodeFrom_two (by omega) htwo
    · by_cases hthree : v ≤ 0xFFFF
      · rw [if_neg hone, if_neg htwo, if_pos hthree]
        exact decodeFrom_three (by omega) hthree (by omega)
      · rw [if_neg hone, if_neg htwo, if_neg hthree]
        exact decodeFrom_four (by omega) (by omega)

/-! ## Section 5: Texts -/

theorem decodeFrom_chars (cs : List Char) :
    decodeFrom acc none (cs.flatMap String.utf8EncodeChar) = (cs.map some).reverse ++ acc := by
  induction cs generalizing acc with
  | nil => simp [decodeFrom]
  | cons c cs ih => simp [decodeFrom_char, ih]

theorem decodeChars_encode (s : String) : decodeChars (encode s) = s.toList.map some := by
  rw [decodeChars, encode_eq, decodeFrom_chars, List.append_nil, List.reverse_reverse]

/-- The bytes of a text hold the text. -/
theorem decode?_encode (s : String) : decode? (encode s) = some s := by
  have hchars : (s.toList.map some).mapM id = some s.toList := by
    induction s.toList with
    | nil => rfl
    | cons c cs ih => rw [List.map_cons, List.mapM_cons, ih]; rfl
  rw [decode?, decodeChars_encode, hchars, Option.map_some, String.ofList_toList]

/-- No part of a text is replaced when it is read from its bytes. -/
theorem decodeLossy_encode (s : String) : decodeLossy (encode s) = s := by
  have hchars : (s.toList.map some).map (·.getD '\ufffd') = s.toList := by
    rw [List.map_map]
    exact List.map_id _
  rw [decodeLossy, decodeChars_encode, hchars, String.ofList_toList]

end EnvRegistry.Text
