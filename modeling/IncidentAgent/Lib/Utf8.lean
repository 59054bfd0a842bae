import IncidentAgent.Lib.JsonText

/-!
# Texts cut by bytes

A text that is encoded and cut at any byte still ends as the text does. What is decoded from the
rest, where bytes that begin no character are ignored, is an end of the text, and at most three
bytes of it are lost (`decodeIgnore_drop`): those of the character that was cut.
-/

namespace IncidentAgent

/-- `text.encode("utf-8")`. -/
def utf8 (text : List Char) : List UInt8 := text.flatMap String.utf8EncodeChar

/-- The character whose bytes some bytes begin with. -/
def firstChar (bytes : List UInt8) : Option Char := bytes.toByteArray.utf8DecodeChar? 0

/-- The characters in some bytes, after so many bytes of the last one. A byte that begins no
character is ignored. -/
def decodeFrom : ℕ → List UInt8 → List Char
  | _, [] => []
  | skipped + 1, _ :: rest => decodeFrom skipped rest
  | 0, b :: rest => match firstChar (b :: rest) with
    | some c => c :: decodeFrom (c.utf8Size - 1) rest
    | none => decodeFrom 0 rest

/-- `bytes.decode("utf-8", errors="ignore")`. -/
def decodeIgnore (bytes : List UInt8) : List Char := decodeFrom 0 bytes

theorem utf8_cons (c : Char) (text : List Char) :
    utf8 (c :: text) = String.utf8EncodeChar c ++ utf8 text := List.flatMap_cons

/-- The bytes of a character are read as that character. -/
theorem firstChar_encode (c : Char) (bytes : List UInt8) :
    firstChar (String.utf8EncodeChar c ++ bytes) = some c := by
  rw [firstChar, List.toByteArray_append, ByteArray.utf8DecodeChar?_utf8EncodeChar_append]

/-- A byte inside a character begins none. -/
theorem firstChar_inside {c : Char} {i : ℕ} (hpos : 0 < i) (hi : i < (String.utf8EncodeChar c).length)
    (bytes : List UInt8) : firstChar ((String.utf8EncodeChar c).drop i ++ bytes) = none := by
  by_contra hsome
  have hfirst := ByteArray.isUTF8FirstByte_of_isSome_utf8DecodeChar?
    (Option.isSome_iff_ne_none.2 hsome)
  have hdrop : 0 < ((String.utf8EncodeChar c).drop i).length := by
    rw [List.length_drop]
    omega
  have hsize : 0 < ((String.utf8EncodeChar c).drop i ++ bytes).toByteArray.size := by
    rw [List.size_toByteArray, List.length_append]
    omega
  have hbyte : ((String.utf8EncodeChar c).drop i ++ bytes).toByteArray[0] =
      (String.utf8EncodeChar c)[i] := by
    rw [List.getElem_toByteArray, List.getElem_append_left hdrop, List.getElem_drop]
    simp
  rw [hbyte, UInt8.isUTF8FirstByte_getElem_utf8EncodeChar] at hfirst
  omega

/-- Bytes of the last character are passed over. -/
theorem decodeFrom_eq_drop (n : ℕ) (bytes : List UInt8) :
    decodeFrom n bytes = decodeIgnore (bytes.drop n) := by
  induction n generalizing bytes with
  | zero => rfl
  | succ n ih =>
    cases bytes with
    | nil => rfl
    | cons b rest => rw [decodeFrom, ih, List.drop_succ_cons]

/-- A character is read, then what follows it. -/
theorem decodeIgnore_encode (c : Char) (bytes : List UInt8) :
    decodeIgnore (String.utf8EncodeChar c ++ bytes) = c :: decodeIgnore bytes := by
  have hfirst := firstChar_encode c bytes
  have hlength := String.length_utf8EncodeChar c
  have hpos := c.utf8Size_pos
  generalize String.utf8EncodeChar c = encoded at *
  cases encoded with
  | nil =>
    rw [List.length_nil] at hlength
    omega
  | cons b rest =>
    rw [List.cons_append] at hfirst ⊢
    rw [decodeIgnore, decodeFrom, hfirst]
    simp only
    rw [decodeFrom_eq_drop, List.drop_append_of_le_length (by simp at hlength; omega),
      List.drop_of_length_le (by simp at hlength; omega), List.nil_append]

/-- **A text is read back from its bytes.** -/
theorem decodeIgnore_utf8 (text : List Char) : decodeIgnore (utf8 text) = text := by
  induction text with
  | nil => rfl
  | cons c rest ih => rw [utf8_cons, decodeIgnore_encode, ih]

/-- What is left of a character that was cut is ignored. -/
theorem decodeIgnore_inside {c : Char} {i : ℕ} (hpos : 0 < i) (bytes : List UInt8) :
    decodeIgnore ((String.utf8EncodeChar c).drop i ++ bytes) = decodeIgnore bytes := by
  generalize hn : (String.utf8EncodeChar c).length - i = n
  induction n generalizing i with
  | zero =>
    rw [List.drop_of_length_le (by omega), List.nil_append]
  | succ n ih =>
    have hi : i < (String.utf8EncodeChar c).length := by omega
    have hnone := firstChar_inside hpos hi bytes
    rw [List.drop_eq_getElem_cons hi, List.cons_append] at hnone ⊢
    rw [decodeIgnore, decodeFrom, hnone]
    exact ih (Nat.succ_pos i) (by omega)

/-- **What is decoded behind a cut** is an end of the text, and at most three bytes are lost. -/
theorem decodeIgnore_drop (text : List Char) (n : ℕ) :
    decodeIgnore ((utf8 text).drop n) <:+ text ∧
      (utf8 text).length ≤ (utf8 (decodeIgnore ((utf8 text).drop n))).length + n + 3 ∧
      (utf8 (decodeIgnore ((utf8 text).drop n))).length ≤ (utf8 text).length - n := by
  induction text generalizing n with
  | nil =>
    have hnil : (utf8 []).drop n = [] := List.drop_nil
    rw [hnil]
    exact ⟨List.suffix_refl _, by simp [utf8], by simp [utf8, decodeIgnore, decodeFrom]⟩
  | cons c rest ih =>
    have hlength := String.length_utf8EncodeChar c
    have hsize := c.utf8Size_le_four
    rw [utf8_cons]
    rcases Nat.lt_or_ge n (String.utf8EncodeChar c).length with hinside | hbehind
    · rcases Nat.eq_zero_or_pos n with rfl | hpos
      · rw [List.drop_zero, decodeIgnore_encode, decodeIgnore_utf8, utf8_cons]
        exact ⟨List.suffix_refl _, by omega, by omega⟩
      · rw [List.drop_append_of_le_length hinside.le, decodeIgnore_inside hpos, decodeIgnore_utf8,
          List.length_append]
        exact ⟨List.suffix_cons c rest, by omega, by omega⟩
    · obtain ⟨hsuffix, hlost, hkept⟩ := ih (n - (String.utf8EncodeChar c).length)
      rw [List.drop_append, List.drop_of_length_le hbehind, List.nil_append, List.length_append]
      exact ⟨hsuffix.trans (List.suffix_cons c rest), by omega, by omega⟩

end IncidentAgent
