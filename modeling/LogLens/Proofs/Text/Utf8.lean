import LogLens.Text.Utf8

/-!
# Encoding and decoding text

A text and its bytes determine each other: `decode?` finds the one text whose bytes they are, and
finds none exactly when there is none. The bytes are those of the characters, one after the other. A
byte below 0x80 stands only for the character of that number, so such a byte can be looked for in
the bytes as well as in the text; a line break is the case that is used.

## Main results

* `decode?_eq_some_iff` — bytes decode to a text exactly when they are its bytes.
* `mem_encode_iff` — a byte below 0x80 is among the bytes of a text exactly when its character is in
  the text.
-/

namespace LogLens.Text

/-! ## The bytes of a text as a list -/

private theorem toListLoop_eq (bytes : ByteArray) (i : Nat) (acc : List UInt8) :
    ByteArray.toList.loop bytes i acc = acc.reverse ++ bytes.data.toList.drop i := by
  fun_induction ByteArray.toList.loop bytes i acc with
  | case1 i acc h ih =>
      have hlt : i < bytes.data.toList.length := by simpa using h
      have hget : bytes.get! i = bytes.data.toList[i] := by
        rw [Array.getElem_toList]
        exact getElem!_pos bytes.data i h
      rw [ih, List.drop_eq_getElem_cons hlt, hget]
      simp
  | case2 i acc h =>
      have hle : bytes.data.toList.length ≤ i := by simpa using h
      rw [List.drop_eq_nil_of_le hle, List.append_nil]

theorem byteList_eq (bytes : ByteArray) : bytes.toList = bytes.data.toList := by
  rw [ByteArray.toList, toListLoop_eq, List.reverse_nil, List.nil_append, List.drop_zero]

/-- The bytes of a text are those of its characters, one after the other. -/
theorem encode_eq (s : String) : encode s = s.toList.flatMap String.utf8EncodeChar := by
  have hbytes : s.toByteArray = s.toList.utf8Encode := by
    rw [← String.toByteArray_ofList, String.ofList_toList]
  rw [encode, String.toUTF8_eq_toByteArray, hbytes, byteList_eq]
  exact List.toList_data_toByteArray

theorem encode_ofList (cs : List Char) :
    encode (String.ofList cs) = cs.flatMap String.utf8EncodeChar := by
  rw [encode_eq, String.toList_ofList]

/-! ## The round trip -/

theorem decode?_encode (s : String) : decode? (encode s) = some s := by
  have harray : (⟨(encode s).toArray⟩ : ByteArray) = s.toByteArray := by
    rw [encode, String.toUTF8_eq_toByteArray, byteList_eq, Array.toArray_toList]
  rw [decode?, harray, String.fromUTF8?, dif_pos s.isValidUTF8]
  rfl

/-- Bytes decode to a text exactly when they are its bytes. -/
theorem decode?_eq_some_iff {bytes : List UInt8} {s : String} :
    decode? bytes = some s ↔ encode s = bytes := by
  constructor
  · intro h
    unfold decode? String.fromUTF8? at h
    split at h
    · next hvalid =>
        obtain rfl := Option.some.inj h
        rw [encode, String.toUTF8_eq_toByteArray, byteList_eq]
        rfl
    · cases h
  · rintro rfl
    exact decode?_encode s

/-! ## Bytes below 0x80 -/

/-- Every byte of a character of several bytes is 0x80 or above. -/
theorem mem_utf8EncodeChar_iff {c : Char} {b : UInt8} (hb : b < 0x80) :
    b ∈ String.utf8EncodeChar c ↔ b.toNat = c.toNat := by
  have hlow : b.toNat < 128 := UInt8.lt_iff_toNat_lt.1 hb
  have hchar : c.toNat = c.val.toNat := rfl
  rw [hchar]
  fun_cases String.utf8EncodeChar c with
  | case1 v hv =>
      rw [List.mem_singleton, ← UInt8.toNat_inj, UInt8.toNat_ofNat', Nat.mod_eq_of_lt (by omega)]
  | case2 v h₁ h₂ =>
      simp only [List.mem_cons, List.not_mem_nil, or_false, ← UInt8.toNat_inj, UInt8.toNat_ofNat']
      omega
  | case3 v h₁ h₂ h₃ =>
      simp only [List.mem_cons, List.not_mem_nil, or_false, ← UInt8.toNat_inj, UInt8.toNat_ofNat']
      omega
  | case4 v h₁ h₂ h₃ =>
      simp only [List.mem_cons, List.not_mem_nil, or_false, ← UInt8.toNat_inj, UInt8.toNat_ofNat']
      omega

/-- A byte below 0x80 is among the bytes of a text exactly when its character is in the text. -/
theorem mem_encode_iff {s : String} {c : Char} {b : UInt8} (hb : b < 0x80)
    (hc : b.toNat = c.toNat) : b ∈ encode s ↔ c ∈ s.toList := by
  rw [encode_eq, List.mem_flatMap]
  constructor
  · rintro ⟨d, hd, hmem⟩
    have hnumber : d.toNat = c.toNat := ((mem_utf8EncodeChar_iff hb).1 hmem).symm.trans hc
    have hdc : d = c := Char.ext (UInt32.toNat_inj.1 hnumber)
    exact hdc ▸ hd
  · intro hmem
    exact ⟨c, hmem, (mem_utf8EncodeChar_iff hb).2 hc⟩

end LogLens.Text
