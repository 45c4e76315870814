import BreakpointGlyph.Location.Breakpoint
import BreakpointGlyph.Proofs.Numeral.Reader

/-! Addresses, tokens and IL offsets read back from the text that they are shown as. -/

namespace BreakpointGlyph

/-- A hexadecimal numeral as shown is a number as it can be typed, however wide it is. -/
theorem numberOf_hexText (width n : Nat) : NumberOf (hexText width n).toList n := by
  -- Behind the marker there are the digits of the number, with zeros in front.
  have shape : (hexText width n).toList =
      '0' :: 'x' :: List.leftpad width '0' (upperHexDigits n) := String.toList_ofList
  have made : DigitsOf 16 (List.leftpad width '0' (upperHexDigits n)) n :=
    (digitsValue?_eq_some_iff (by decide)).mp (digitsValue?_padded width n)
  have written : List.leftpad width '0' (upperHexDigits n) ≠ [] := by
    simp [List.leftpad, upperHexDigits, Nat.toDigits_ne_nil]
  rw [shape]
  exact .hexadecimal (.inl rfl) (.plain written made)

/-- There is no white space in the text of an IL offset. -/
theorem visible_ilOffsetText (mapping : IlMapping) (ilOffset : UInt32) :
    ∀ c ∈ (ilOffsetText mapping ilOffset).toList, isBlank c = false := by
  have number := (numberOf_hexText 4 ilOffset.toNat).visible
  cases mapping with
  | exact => exact number
  | approximate =>
    -- The sign in front of an approximate number is visible too.
    have sign : isBlank '~' = false := by decide
    simpa [ilOffsetText, sign] using number
  | unknown | prolog | epilog | noInfo | unmappedAddress =>
    simp [ilOffsetText, isBlank, inRanges, blankRanges]

/-- Nothing has to stand around it. -/
theorem typedNumber_hexText (width n : Nat) : TypedNumber (hexText width n).toList n :=
  ⟨[], _, [], by simp, by simp, by simp, numberOf_hexText width n⟩

/-- Addresses, tokens and exact IL offsets read back from the text that they are shown as, an
address with any white space around it; an approximate IL offset is shown as an exact one behind a
tilde, and the address at an offset reads back as the sum that wraps around at 64 bits. -/
theorem shown_reads_back :
    (∀ (address : Address) (before after : String), (∀ c ∈ before.toList, isBlank c = true) →
        (∀ c ∈ after.toList, isBlank c = true) →
        parseUInt64 (before ++ address.text ++ after) = .ok address.value) ∧
      (∀ token : MethodToken, parseUInt32 token.text = .ok token.value) ∧
      (∀ ilOffset, parseUInt32 (ilOffsetText .exact ilOffset) = .ok ilOffset ∧
        ilOffsetText .approximate ilOffset = "~" ++ ilOffsetText .exact ilOffset) ∧
      ∀ (base : Address) (offset : UInt64), ∃ value,
        parseUInt64 (base.add offset).text = .ok value ∧
          value.toNat = (base.value.toNat + offset.toNat) % 2 ^ 64 := by
  -- All of them are shown as hexadecimal numerals, which differ in their least number of digits and
  -- in the word that they are read into.
  refine ⟨?_, ?_, fun ilOffset => ⟨?_, rfl⟩, ?_⟩
  · intro address before after front back
    apply parseUInt64_eq_ok_iff.mpr
    rw [String.toList_append, String.toList_append]
    exact (typedNumber_hexText 8 address.value.toNat).spaced front back
  · intro token
    exact parseUInt32_eq_ok_iff_typed.mpr (typedNumber_hexText 8 token.value.toNat)
  · exact parseUInt32_eq_ok_iff_typed.mpr (typedNumber_hexText 4 ilOffset.toNat)
  · intro base offset
    have read : parseUInt64 (base.add offset).text = .ok (base.value + offset) :=
      parseUInt64_eq_ok_iff.mpr (typedNumber_hexText 8 (base.value + offset).toNat)
    exact ⟨base.value + offset, read, UInt64.toNat_add base.value offset⟩

/-- An address of more than eight digits between an ideographic space and a line break, and a sum
that wraps around to a short one. -/
theorem shown_reads_back_spaced :
    parseUInt64 ("\u3000" ++ Address.text ⟨0x7FFDEADBEEF⟩ ++ "\r\n") = .ok 0x7FFDEADBEEF ∧
      ∃ value, parseUInt64 (Address.add ⟨0xFFFFFFFFFFFFFFFF⟩ 0x11).text = .ok value ∧
        value.toNat = 0x10 := by
  have front : ∀ c ∈ "\u3000".toList, isBlank c = true := by
    intro c member
    obtain rfl : c = '\u3000' := by simpa using member
    decide
  have back : ∀ c ∈ "\r\n".toList, isBlank c = true := by
    intro c member
    have ends : c = '\r' ∨ c = '\n' := by simpa using member
    rcases ends with rfl | rfl <;> decide
  obtain ⟨spaced, _, _, wrapped⟩ := shown_reads_back
  exact ⟨spaced ⟨0x7FFDEADBEEF⟩ "\u3000" "\r\n" front back, wrapped ⟨0xFFFFFFFFFFFFFFFF⟩ 0x11⟩

end BreakpointGlyph
