import BreakpointGlyph.Numeral.Reader
import BreakpointGlyph.Proofs.Numeral.Grammar
import BreakpointGlyph.Proofs.Text.Trim

/-! A typed number is read as that number, and whatever is no number that fits is reported as it
was typed. -/

namespace BreakpointGlyph

/-! Numbers and the white space around them -/

/-- There is no white space in a numeral. -/
theorem NumeralOf.visible {base n : Nat} {text : List Char} (small : base ≤ 16)
    (numeral : NumeralOf base text n) : ∀ c ∈ text, isBlank c = false :=
  numeral.all_characters small (by decide) (by decide) (by decide)

/-- There is no white space in a number. -/
theorem NumberOf.visible {n : Nat} {text : List Char} (number : NumberOf text n) :
    ∀ c ∈ text, isBlank c = false := by
  cases number with
  | decimal numeral => exact numeral.visible (by decide)
  | hexadecimal marked numeral =>
    intro c member
    simp only [List.mem_cons] at member
    rcases member with rfl | rfl | later
    · decide
    · rcases marked with rfl | rfl <;> decide
    · exact numeral.visible (by decide) c later

/-- A text is a typed number exactly if it is a number once it is trimmed. -/
theorem typedNumber_iff {text : List Char} {n : Nat} :
    TypedNumber text n ↔ NumberOf (trim text) n := by
  constructor
  · rintro ⟨before, number, after, rfl, front, back, written⟩
    -- Trimming stops at the number, which has no white space of its own.
    have ends : VisibleEnds number :=
      ⟨fun c found => written.visible c (List.mem_of_head? found),
        fun c found => written.visible c (List.mem_of_getLast? found)⟩
    rw [trim_append_right back, trim_append_left front, trim_visible ends]
    exact written
  · intro written
    obtain ⟨before, after, whole, front, back⟩ := exists_trim text
    exact ⟨before, trim text, after, whole, front, back, written⟩

/-- A typed number may have any white space around it. -/
theorem TypedNumber.spaced {before text after : List Char} {n : Nat}
    (typed : TypedNumber text n) (front : ∀ c ∈ before, isBlank c = true)
    (back : ∀ c ∈ after, isBlank c = true) : TypedNumber (before ++ text ++ after) n := by
  rw [typedNumber_iff, trim_append_right back, trim_append_left front, ← typedNumber_iff]
  exact typed

/-- What follows a marker is a hexadecimal numeral. -/
theorem numberOf_marked {mark : Char} {digits : List Char} {n : Nat}
    (marked : mark = 'x' ∨ mark = 'X') :
    NumberOf ('0' :: mark :: digits) n ↔ NumeralOf 16 digits n := by
  constructor
  · intro number
    cases number with
    | decimal numeral =>
      -- The marker is no decimal digit.
      rw [numeralOf_unsigned (by decide)] at numeral
      cases numeral with
      | digit _ others =>
        cases others with
        | digit second _ =>
          have read := (digitValue?_eq_some_iff (by decide)).mpr second
          rcases marked with rfl | rfl <;> simp [digitValue?] at read
    | hexadecimal _ numeral => exact numeral
  · exact .hexadecimal marked

/-- A number without a marker is a decimal numeral. -/
theorem numberOf_unmarked {text : List Char} {n : Nat}
    (lower : ∀ digits, text ≠ '0' :: 'x' :: digits)
    (upper : ∀ digits, text ≠ '0' :: 'X' :: digits) :
    NumberOf text n ↔ NumeralOf 10 text n := by
  constructor
  · intro number
    cases number with
    | decimal numeral => exact numeral
    | hexadecimal marked _ =>
      rcases marked with rfl | rfl
      · exact absurd rfl (lower _)
      · exact absurd rfl (upper _)
  · exact .decimal

/-- Reading accepts exactly the typed numbers below the limit. -/
theorem readNumber_eq_ok_iff {limit n : Nat} {text : List Char} (positive : 0 < limit) :
    readNumber limit text = .ok n ↔ TypedNumber text n ∧ n < limit := by
  rw [typedNumber_iff]
  unfold readNumber
  -- Reader and grammar choose the base by the same marker, so the digits are left in each case.
  split
  · rename_i digits marked
    rw [marked, numberOf_marked (.inl rfl)]
    exact readNumeral_eq_ok_iff (by decide) (by decide) positive
  · rename_i digits marked
    rw [marked, numberOf_marked (.inr rfl)]
    exact readNumeral_eq_ok_iff (by decide) (by decide) positive
  · rename_i lower upper
    rw [numberOf_unmarked lower upper]
    exact readNumeral_eq_ok_iff (by decide) (by decide) positive

/-- A sign stands behind the marker, and zeros may lead, also beyond the width of the limit. -/
example : readNumber 256 [' ', '0', 'X', '+', '0', '0', '0', 'f', 'F', '\n'] = .ok 255 := rfl

/-! Numbers of a machine word -/

/-- A number of 64 bits is read exactly from the texts that it can be typed as. -/
theorem parseUInt64_eq_ok_iff {text : String} {value : UInt64} :
    parseUInt64 text = .ok value ↔ TypedNumber text.toList value.toNat := by
  have reads : ∀ n, readNumber UInt64.size text.toList = .ok n ↔
      TypedNumber text.toList n ∧ n < UInt64.size :=
    fun n => readNumber_eq_ok_iff (by decide)
  rw [parseUInt64]
  cases read : readNumber UInt64.size text.toList with
  | ok n =>
    show Except.ok (UInt64.ofNat n) = Except.ok value ↔ _
    obtain ⟨typed, below⟩ := (reads n).mp read
    have kept : (UInt64.ofNat n).toNat = n := UInt64.toNat_ofNat_of_lt' below
    rw [Except.ok.injEq]
    constructor
    · rintro rfl
      rwa [kept]
    · -- A text is read in one way only, so both numbers are the same.
      intro other
      have again := (reads value.toNat).mpr ⟨other, value.toNat_lt_size⟩
      rw [read, Except.ok.injEq] at again
      rw [again, UInt64.ofNat_toNat]
  | error fault =>
    constructor
    · simp
    · intro typed
      have again := (reads value.toNat).mpr ⟨typed, value.toNat_lt_size⟩
      simp [read] at again

/-- A number of 32 bits is read exactly where it is read as a number of 64 bits. -/
theorem parseUInt32_eq_ok_iff {text : String} {value : UInt32} :
    parseUInt32 text = .ok value ↔ parseUInt64 text = .ok value.toUInt64 := by
  rw [parseUInt32]
  cases parseUInt64 text with
  | error error => simp
  | ok wide =>
    dsimp only
    split
    · rename_i below
      rw [Except.ok.injEq, Except.ok.injEq]
      constructor
      · rintro rfl
        apply UInt64.toNat_inj.mp
        rw [UInt32.toNat_toUInt64, UInt64.toNat_toUInt32]
        exact (Nat.mod_eq_of_lt below).symm
      · rintro rfl
        exact UInt32.toUInt32_toUInt64 value
    · -- The value of a word of 32 bits would have been small enough.
      rename_i far
      constructor
      · simp
      · rintro ⟨⟩
        rw [UInt32.toNat_toUInt64] at far
        exact absurd value.toNat_lt_size far

/-- A number of 32 bits is read exactly from the texts that it can be typed as. -/
theorem parseUInt32_eq_ok_iff_typed {text : String} {value : UInt32} :
    parseUInt32 text = .ok value ↔ TypedNumber text.toList value.toNat := by
  rw [parseUInt32_eq_ok_iff, parseUInt64_eq_ok_iff, UInt32.toNat_toUInt64]

/-- A reader of typed numbers below a limit, whose only error is to report the text, reports it
exactly if no number below the limit is typed. -/
theorem eq_error_iff_typed {α : Type} {outcome : Except GlyphError α} {text : String} {limit : Nat}
    (number : α → Nat) (below : ∀ value, number value < limit)
    (covered : ∀ n < limit, ∃ value, number value = n)
    (accepts : ∀ value, outcome = .ok value ↔ TypedNumber text.toList (number value))
    (reports : ∀ error, outcome = .error error → error = .invalidNumber text)
    (error : GlyphError) :
    outcome = .error error ↔
      error = .invalidNumber text ∧ ∀ n, TypedNumber text.toList n → limit ≤ n := by
  constructor
  · intro failed
    refine ⟨reports error failed, ?_⟩
    intro n typed
    -- A smaller number would be that of some value, and the reader would have accepted it.
    rcases Nat.lt_or_ge n limit with small | large
    · obtain ⟨value, rfl⟩ := covered n small
      have accepted := (accepts value).mpr typed
      rw [failed] at accepted
      simp at accepted
    · exact large
  · intro none
    obtain ⟨rfl, large⟩ := none
    cases result : outcome with
    | ok value =>
      -- The number of an accepted value is typed, and it is below the limit.
      have := large _ ((accepts value).mp result)
      have := below value
      omega
    | error other => rw [reports other result]

/-- A text that is no number of 64 bits is reported as it was typed. -/
theorem parseUInt64_eq_error_iff {text : String} {error : GlyphError} :
    parseUInt64 text = .error error ↔
      error = .invalidNumber text ∧ ∀ n, TypedNumber text.toList n → 2 ^ 64 ≤ n := by
  have covered : ∀ n < 2 ^ 64, ∃ value : UInt64, value.toNat = n :=
    fun n small => ⟨UInt64.ofNat n, UInt64.toNat_ofNat_of_lt' small⟩
  have reports : ∀ error, parseUInt64 text = .error error → error = .invalidNumber text := by
    intro error failed
    rw [parseUInt64] at failed
    split at failed
    · simp at failed
    · simpa using failed.symm
  exact eq_error_iff_typed UInt64.toNat UInt64.toNat_lt covered
    (fun value => parseUInt64_eq_ok_iff) reports error

/-- A text that is no number of 32 bits is reported as it was typed. -/
theorem parseUInt32_eq_error_iff {text : String} {error : GlyphError} :
    parseUInt32 text = .error error ↔
      error = .invalidNumber text ∧ ∀ n, TypedNumber text.toList n → 2 ^ 32 ≤ n := by
  have covered : ∀ n < 2 ^ 32, ∃ value : UInt32, value.toNat = n :=
    fun n small => ⟨UInt32.ofNat n, UInt32.toNat_ofNat_of_lt' small⟩
  have reports : ∀ error, parseUInt32 text = .error error → error = .invalidNumber text := by
    intro error failed
    rw [parseUInt32] at failed
    split at failed
    · split at failed
      · simp at failed
      · simpa using failed.symm
    · -- The wider reader has reported the same text.
      rename_i other wide
      obtain rfl : other = error := by simpa using failed
      exact (parseUInt64_eq_error_iff.mp wide).1
  exact eq_error_iff_typed UInt32.toNat UInt32.toNat_lt covered
    (fun value => parseUInt32_eq_ok_iff_typed) reports error

/-- A typed number is read as that number if it fits into 64 bits, and every other text is reported
as it was typed; of the numbers of 64 bits that are read, those that fit into 32 bits are also read
as such, and every other text is reported again. -/
theorem parseUInt_typed (text : String) :
    (∀ value, parseUInt64 text = .ok value ↔ TypedNumber text.toList value.toNat) ∧
      (∀ error, parseUInt64 text = .error error ↔
        error = .invalidNumber text ∧ ∀ n, TypedNumber text.toList n → 2 ^ 64 ≤ n) ∧
      (∀ value, parseUInt32 text = .ok value ↔ parseUInt64 text = .ok value.toUInt64) ∧
      ∀ error, parseUInt32 text = .error error ↔
        error = .invalidNumber text ∧ ∀ n, TypedNumber text.toList n → 2 ^ 32 ≤ n :=
  ⟨fun _ => parseUInt64_eq_ok_iff, fun _ => parseUInt64_eq_error_iff,
    fun _ => parseUInt32_eq_ok_iff, fun _ => parseUInt32_eq_error_iff⟩

end BreakpointGlyph
