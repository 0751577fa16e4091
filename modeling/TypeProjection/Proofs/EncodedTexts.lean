import TypeProjection.Text.Utf8

/-!
# Texts and their bytes

The bytes that write a text are read back as the text: a character is written with as many bytes as
its code needs, the first byte says how many there are, and each of the others carries six bits.
-/

namespace TypeProjection.Text

/-- The bytes of an array from a position on, behind those that are collected already. -/
theorem toList_loop (bs : ByteArray) (i : Nat) (done : List UInt8) :
    ByteArray.toList.loop bs i done = done.reverse ++ bs.data.toList.drop i := by
  induction i, done using ByteArray.toList.loop.induct bs with
  | case1 i done hi ih =>
    have hlt : i < bs.data.toList.length := by simpa using hi
    rw [ByteArray.toList.loop, if_pos hi, ih, List.reverse_cons, List.append_assoc,
      List.drop_eq_getElem_cons hlt]
    congr 2
    have hget : bs.get! i = bs.data.toList[i] := by
      show bs.data[i]! = _
      rw [getElem!_pos bs.data i hi, Array.getElem_toList]
    rw [hget]
    rfl
  | case2 i done hi =>
    have hle : bs.data.toList.length ≤ i := by simpa using hi
    rw [ByteArray.toList.loop, if_neg hi, List.drop_eq_nil_of_le hle, List.append_nil]

theorem encode_ofList (cs : List Char) :
    encode (String.ofList cs) = cs.flatMap String.utf8EncodeChar := by
  show ByteArray.toList.loop (String.ofList cs).toByteArray 0 [] = _
  rw [toList_loop, String.toByteArray_ofList, List.utf8Encode, List.toList_data_toByteArray]
  rfl

theorem encode_eq (s : String) : encode s = s.toList.flatMap String.utf8EncodeChar := by
  rw [← encode_ofList, String.ofList_toList]

/-! ## The bytes of one character -/

variable {a b c d : UInt8} {n : Nat} {done : List Char} {bs : List UInt8}

theorem isContinuation_iff : isContinuation b = true ↔ 128 ≤ b.toNat ∧ b.toNat < 192 := by
  simp [isContinuation, UInt8.le_iff_toNat_le, UInt8.lt_iff_toNat_lt]

theorem fitsThree_iff : fitsThree a b = true ↔ isContinuation b = true ∧
    (a.toNat = 224 → 160 ≤ b.toNat) ∧ (a.toNat = 237 → b.toNat < 160) := by
  simp [fitsThree, UInt8.le_iff_toNat_le, UInt8.lt_iff_toNat_lt, ← UInt8.toNat_inj, and_assoc,
    Decidable.imp_iff_not_or]

theorem fitsFour_iff : fitsFour a b = true ↔ isContinuation b = true ∧
    (a.toNat = 240 → 144 ≤ b.toNat) ∧ (a.toNat = 244 → b.toNat < 144) := by
  simp [fitsFour, UInt8.le_iff_toNat_le, UInt8.lt_iff_toNat_lt, ← UInt8.toNat_inj, and_assoc,
    Decidable.imp_iff_not_or]

theorem decodeFrom_one (ha : a.toNat < 128) :
    decodeFrom n done (a :: bs) = decodeFrom (n + 1) (Char.ofNat a.toNat :: done) bs := by
  have ha1 : a < 128 := UInt8.lt_iff_toNat_lt.mpr ha
  rw [decodeFrom.eq_def]
  simp only [if_pos ha1]

theorem decodeFrom_two (ha : 194 ≤ a.toNat ∧ a.toNat < 224) (hb : isContinuation b = true) :
    decodeFrom n done (a :: b :: bs) =
      decodeFrom (n + 2) (Char.ofNat (a.toNat % 32 * 64 + payload b) :: done) bs := by
  have ha1 : ¬ a < 128 := by rw [UInt8.lt_iff_toNat_lt]; simp; omega
  have ha2 : ¬ a < 194 := by rw [UInt8.lt_iff_toNat_lt]; simp; omega
  have ha3 : a < 224 := UInt8.lt_iff_toNat_lt.mpr ha.2
  rw [decodeFrom.eq_def]
  simp only [if_neg ha1, if_neg ha2, if_pos ha3, hb, if_true]

theorem decodeFrom_three (ha : 224 ≤ a.toNat ∧ a.toNat < 240) (hb : fitsThree a b = true)
    (hc : isContinuation c = true) :
    decodeFrom n done (a :: b :: c :: bs) = decodeFrom (n + 3)
      (Char.ofNat (a.toNat % 16 * 4096 + payload b * 64 + payload c) :: done) bs := by
  have ha1 : ¬ a < 128 := by rw [UInt8.lt_iff_toNat_lt]; simp; omega
  have ha2 : ¬ a < 194 := by rw [UInt8.lt_iff_toNat_lt]; simp; omega
  have ha3 : ¬ a < 224 := by rw [UInt8.lt_iff_toNat_lt]; simp; omega
  have ha4 : a < 240 := UInt8.lt_iff_toNat_lt.mpr ha.2
  rw [decodeFrom.eq_def]
  simp only [if_neg ha1, if_neg ha2, if_neg ha3, if_pos ha4, hb, hc, Bool.not_true,
    Bool.false_eq_true, if_false]

theorem decodeFrom_four (ha : 240 ≤ a.toNat ∧ a.toNat < 245) (hb : fitsFour a b = true)
    (hc : isContinuation c = true) (hd : isContinuation d = true) :
    decodeFrom n done (a :: b :: c :: d :: bs) = decodeFrom (n + 4)
      (Char.ofNat (a.toNat % 8 * 262144 + payload b * 4096 + payload c * 64 + payload d) :: done)
      bs := by
  have ha1 : ¬ a < 128 := by rw [UInt8.lt_iff_toNat_lt]; simp; omega
  have ha2 : ¬ a < 194 := by rw [UInt8.lt_iff_toNat_lt]; simp; omega
  have ha3 : ¬ a < 224 := by rw [UInt8.lt_iff_toNat_lt]; simp; omega
  have ha4 : ¬ a < 240 := by rw [UInt8.lt_iff_toNat_lt]; simp; omega
  have ha5 : a < 245 := UInt8.lt_iff_toNat_lt.mpr ha.2
  rw [decodeFrom.eq_def]
  simp only [if_neg ha1, if_neg ha2, if_neg ha3, if_neg ha4, if_pos ha5, hb, hc, hd, Bool.not_true,
    Bool.false_eq_true, if_false]

/-- The byte that carries six bits. -/
theorem toNat_follower (k : Nat) : (UInt8.ofNat (k % 64 + 128)).toNat = k % 64 + 128 := by
  rw [UInt8.toNat_ofNat']
  omega

theorem isContinuation_follower (k : Nat) :
    isContinuation (UInt8.ofNat (k % 64 + 128)) = true := by
  rw [isContinuation_iff, toNat_follower]
  omega

theorem payload_follower (k : Nat) : payload (UInt8.ofNat (k % 64 + 128)) = k % 64 := by
  rw [payload, toNat_follower]
  omega

/-- The bytes of a character are read back as the character, by what its code needs. -/
theorem decodeFrom_char (c : Char) (n : Nat) (done : List Char) (bs : List UInt8) :
    ∃ m, decodeFrom n done (String.utf8EncodeChar c ++ bs) = decodeFrom m (c :: done) bs := by
  have hvalid : c.val.toNat < 55296 ∨ 57343 < c.val.toNat ∧ c.val.toNat < 1114112 := c.valid
  have hchar : Char.ofNat c.val.toNat = c := Char.ofNat_toNat c
  rw [String.utf8EncodeChar.eq_1]
  generalize c.val.toNat = v at *
  split
  · next h =>
    have ha : (UInt8.ofNat v).toNat = v := by rw [UInt8.toNat_ofNat']; omega
    refine ⟨n + 1, ?_⟩
    rw [List.cons_append, decodeFrom_one (by omega), ha, hchar, List.nil_append]
  · split
    · next h1 h =>
      have ha : (UInt8.ofNat (v / 64 % 32 + 192)).toNat = v / 64 % 32 + 192 := by
        rw [UInt8.toNat_ofNat']; omega
      have hcode : (v / 64 % 32 + 192) % 32 * 64 + v % 64 = v := by omega
      refine ⟨n + 2, ?_⟩
      rw [List.cons_append, List.cons_append, decodeFrom_two (by omega) (isContinuation_follower _),
        ha, payload_follower, hcode, hchar, List.nil_append]
    · split
      · next h1 h2 h =>
        have ha : (UInt8.ofNat (v / 4096 % 16 + 224)).toNat = v / 4096 % 16 + 224 := by
          rw [UInt8.toNat_ofNat']; omega
        have hcode : (v / 4096 % 16 + 224) % 16 * 4096 + v / 64 % 64 * 64 + v % 64 = v := by omega
        have hfits : fitsThree (UInt8.ofNat (v / 4096 % 16 + 224)) (UInt8.ofNat (v / 64 % 64 + 128))
            = true := by
          rw [fitsThree_iff, ha, toNat_follower]
          exact ⟨isContinuation_follower _, by omega, by omega⟩
        refine ⟨n + 3, ?_⟩
        rw [List.cons_append, List.cons_append, List.cons_append,
          decodeFrom_three (by omega) hfits (isContinuation_follower _), ha, payload_follower,
          payload_follower, hcode, hchar, List.nil_append]
      · next h1 h2 h =>
        have ha : (UInt8.ofNat (v / 262144 % 8 + 240)).toNat = v / 262144 % 8 + 240 := by
          rw [UInt8.toNat_ofNat']; omega
        have hcode : (v / 262144 % 8 + 240) % 8 * 262144 + v / 4096 % 64 * 4096 +
            v / 64 % 64 * 64 + v % 64 = v := by omega
        have hfits : fitsFour (UInt8.ofNat (v / 262144 % 8 + 240))
            (UInt8.ofNat (v / 4096 % 64 + 128)) = true := by
          rw [fitsFour_iff, ha, toNat_follower]
          exact ⟨isContinuation_follower _, by omega, by omega⟩
        refine ⟨n + 4, ?_⟩
        rw [List.cons_append, List.cons_append, List.cons_append, List.cons_append,
          decodeFrom_four (by omega) hfits (isContinuation_follower _) (isContinuation_follower _),
          ha, payload_follower, payload_follower, payload_follower, hcode, hchar, List.nil_append]

/-! ## The bytes of a text -/

theorem decodeFrom_chars (cs : List Char) (n : Nat) (done : List Char) :
    decodeFrom n done (cs.flatMap String.utf8EncodeChar) = .ok (done.reverse ++ cs) := by
  induction cs generalizing n done with
  | nil => rw [List.flatMap_nil, decodeFrom, List.append_nil]
  | cons c cs ih =>
    obtain ⟨m, hm⟩ := decodeFrom_char c n done (cs.flatMap String.utf8EncodeChar)
    rw [List.flatMap_cons, hm, ih, List.reverse_cons, List.append_assoc, List.singleton_append]

/-- The bytes that write a text are read back as the text. -/
theorem decode_encode (s : String) : decode (encode s) = .ok s.toList := by
  rw [decode, encode_eq, decodeFrom_chars]
  rfl

end TypeProjection.Text
