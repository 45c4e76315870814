import BreakpointGlyph.Disk.RawText

/-! The bytes of a text are read as that text, and cut at slashes where the text is. -/

namespace BreakpointGlyph

/-- The bytes of a text are those of its characters. -/
theorem RawText.bytes_ofString (text : String) :
    (ofString text).bytes = text.toList.flatMap String.utf8EncodeChar := by
  have encoded : text.toByteArray = text.toList.utf8Encode := by
    rw [← String.toByteArray_ofList, String.ofList_toList]
  simp [ofString, encoded, List.utf8Encode]

/-- The bytes of a text are read as that text. -/
@[simp]
theorem RawText.text?_ofString (text : String) : (ofString text).text? = some text := by
  have bytes : (ofString text).bytes.toByteArray = text.toByteArray := by
    apply ByteArray.ext
    simp [ofString]
  unfold text? String.fromUTF8?
  rw [bytes, dif_pos text.isValidUTF8]
  rfl

/-- Bytes are read as a text exactly if they are its bytes. -/
theorem RawText.text?_eq_some_iff {raw : RawText} {text : String} :
    raw.text? = some text ↔ raw = text := by
  constructor
  · intro read
    unfold text? String.fromUTF8? at read
    split at read
    · obtain rfl := Option.some.inj read
      cases raw
      simp [ofString, String.fromUTF8]
    · simp at read
  · rintro rfl
    exact text?_ofString text

/-- No text is read exactly if the bytes are not those of any. -/
theorem RawText.text?_eq_none_iff {raw : RawText} : raw.text? = none ↔ ¬raw.IsText := by
  simp only [Option.eq_none_iff_forall_ne_some, ne_eq, text?_eq_some_iff, IsText, not_exists]

/-! What is shown -/

/-- Bytes that are passed over are not read. -/
theorem readLossy_behind (passed rest : List UInt8) :
    readLossy passed.length (passed ++ rest) = readLossy 0 rest := by
  induction passed with
  | nil => rfl
  | cons first others ih => exact ih

/-- A character is read from its bytes, whatever follows it. -/
theorem readLossy_utf8EncodeChar (c : Char) (rest : List UInt8) :
    readLossy 0 (String.utf8EncodeChar c ++ rest) = c :: readLossy 0 rest := by
  have decoded : (String.utf8EncodeChar c ++ rest).toByteArray.utf8DecodeChar? 0 = some c := by
    rw [List.toByteArray_append]
    exact ByteArray.utf8DecodeChar?_utf8EncodeChar_append
  have size := String.length_utf8EncodeChar c
  -- The bytes behind the first one are passed over.
  cases bytes : String.utf8EncodeChar c with
  | nil => simp [bytes, Nat.ne_of_lt c.utf8Size_pos] at size
  | cons first others =>
    rw [bytes, List.cons_append] at decoded
    rw [bytes, List.length_cons] at size
    rw [List.cons_append, readLossy]
    simp only [decoded]
    rw [← size, Nat.add_sub_cancel, readLossy_behind]

/-- A text is shown as it is. -/
@[simp]
theorem RawText.shown_ofString (text : String) : (ofString text).shown = text := by
  have general (characters : List Char) :
      readLossy 0 (characters.flatMap String.utf8EncodeChar) = characters := by
    induction characters with
    | nil => rfl
    | cons c rest ih => rw [List.flatMap_cons, readLossy_utf8EncodeChar, ih]
  rw [shown, bytes_ofString, general, String.ofList_toList]

/-! Pieces -/

/-- No character but the one of a byte below 128 has that byte among its own. -/
theorem eq_of_mem_utf8EncodeChar {c ascii : Char} (low : ascii.val.toNat < 0x80)
    (member : UInt8.ofNat ascii.val.toNat ∈ String.utf8EncodeChar c) : c = ascii := by
  have same : c.val.toNat = ascii.val.toNat := by
    unfold String.utf8EncodeChar at member
    simp only at member
    -- Bytes are compared as numbers, and all of a character that has several are above 127.
    repeat' split at member
    all_goals
      simp only [List.mem_cons, List.not_mem_nil, or_false, ← UInt8.toNat_inj,
        UInt8.toNat_ofNat'] at member
      omega
  exact Char.ext (UInt32.toNat_inj.mp same)

end BreakpointGlyph
