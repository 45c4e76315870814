import BreakpointGlyph.Numeral.Grammar
import BreakpointGlyph.Proofs.Numeral.Hexadecimal

/-! Reading a numeral accepts exactly the numerals of numbers below the limit. -/

namespace BreakpointGlyph

/-! Digits -/

/-- A letter in lower case is that letter, or the one in upper case. -/
theorem eq_of_toLower {c d : Char} (same : c.toLower = d) : c = d ∨ c = d.toUpper := by
  -- Only the letters from A to Z change, and each of them comes back.
  have restored : ∀ letter < 26,
      (Char.ofNat (letter + 65)).toLower.toUpper = Char.ofNat (letter + 65) := by decide
  by_cases upper : c.val ≥ 'A'.val ∧ c.val ≤ 'Z'.val
  · have low : 65 ≤ c.toNat := UInt32.le_iff_toNat_le.mp upper.1
    have high : c.toNat ≤ 90 := UInt32.le_iff_toNat_le.mp upper.2
    have back := restored (c.toNat - 65) (by omega)
    rw [Nat.sub_add_cancel low, Char.ofNat_toNat, same] at back
    exact .inr back.symm
  · have kept : c.toLower = c := dif_neg upper
    exact .inl (kept.symm.trans same)

/-- A digit that core writes, in either case, is read as the value that it is written for. -/
theorem digitValue?_of_isDigit {c : Char} {value : Nat} (digit : IsDigit 16 c value) :
    digitValue? 16 c = some value := by
  have lower : ∀ value < 16, digitValue? 16 (Nat.digitChar value) = some value := by decide
  obtain ⟨below, same⟩ := digit
  rcases eq_of_toLower same with rfl | rfl
  · exact lower value below
  · exact digitValue?_digitChar value below

/-- Values below a smaller base are read as they are in base sixteen. -/
theorem digitValue?_below {base value : Nat} {c : Char} (small : base ≤ 16) :
    digitValue? base c = some value ↔ value < base ∧ digitValue? 16 c = some value := by
  have within : ∀ read : Nat, (if read < base then some read else none) = some value ↔
      value < base ∧ (if read < 16 then some read else none) = some value := by
    intro read
    simp only [Option.ite_none_right_eq_some, Option.some.injEq]
    omega
  rw [digitValue?, digitValue?]
  -- In each of the three ranges the value does not depend on the base, and elsewhere there is none.
  split
  · exact within _
  · split
    · exact within _
    · split
      · exact within _
      · simp

/-- What is read as a digit is the character that core writes the value with, in either case. -/
theorem toLower_of_digitValue? {value : Nat} {c : Char} (read : digitValue? 16 c = some value) :
    c.toLower = Nat.digitChar value := by
  -- The characters of one byte are looked up in a table, and no other one is read.
  have table : ∀ code < 128, ∀ value ∈ digitValue? 16 (Char.ofNat code),
      (Char.ofNat code).toLower = Nat.digitChar value := by decide
  have plain : c.toNat < 128 := by
    rcases Nat.lt_or_ge c.toNat 128 with plain | far
    · exact plain
    · -- None of the three ranges goes that far.
      have beyond : ∀ last : Char, last.toNat < 128 → ¬c ≤ last := by
        intro last near within
        have : c.toNat ≤ last.toNat := UInt32.le_iff_toNat_le.mp within
        omega
      simp [digitValue?, beyond '9' (by decide), beyond 'z' (by decide),
        beyond 'Z' (by decide)] at read
  have known := table c.toNat plain
  rw [Char.ofNat_toNat] at known
  exact known value read

/-- The digits that are read are those of the grammar. -/
theorem digitValue?_eq_some_iff {base value : Nat} {c : Char} (small : base ≤ 16) :
    digitValue? base c = some value ↔ IsDigit base c value := by
  rw [digitValue?_below small]
  constructor
  · rintro ⟨below, read⟩
    exact ⟨below, toLower_of_digitValue? read⟩
  · rintro ⟨below, same⟩
    exact ⟨below, digitValue?_of_isDigit ⟨by omega, same⟩⟩

/-! Numerals -/

/-- Digits add to those in front of them, which count as many times the base as there are digits
that follow. -/
theorem digitsValue?_eq_map (base value : Nat) (text : List Char) :
    digitsValue? base value text =
      (digitsValue? base 0 text).map fun n => value * base ^ text.length + n := by
  -- The digits that follow start from another value, so the one in front stays quantified over.
  induction text generalizing value with
  | nil => simp [digitsValue?]
  | cons c rest ih =>
    rw [digitsValue?, digitsValue?]
    cases digitValue? base c with
    | none => rfl
    | some digit =>
      rw [Option.bind_some, Option.bind_some, ih (value * base + digit), ih (0 * base + digit),
        Option.map_map]
      congr 1
      funext n
      simp only [Function.comp_apply, List.length_cons, Nat.pow_succ', Nat.zero_mul, Nat.zero_add,
        Nat.add_mul, Nat.mul_assoc, Nat.add_assoc]

/-- The first digit counts as many times the base as there are digits behind it. -/
theorem digitsOf_cons {base n : Nat} {c : Char} {rest : List Char} :
    DigitsOf base (c :: rest) n ↔ ∃ value others, IsDigit base c value ∧
      DigitsOf base rest others ∧ value * base ^ rest.length + others = n := by
  constructor
  · intro made
    cases made with
    | digit first others => exact ⟨_, _, first, others, rfl⟩
  · rintro ⟨value, others, first, made, rfl⟩
    exact .digit first made

/-- The value of some digits is the number that they make. -/
theorem digitsValue?_eq_some_iff {base n : Nat} {text : List Char} (small : base ≤ 16) :
    digitsValue? base 0 text = some n ↔ DigitsOf base text n := by
  induction text generalizing n with
  | nil =>
    constructor
    · intro read
      obtain rfl : 0 = n := by simpa [digitsValue?] using read
      exact .none
    · rintro ⟨⟩
      rfl
  | cons c rest ih =>
    rw [digitsValue?, Option.bind_eq_some_iff, digitsOf_cons]
    apply exists_congr
    intro digit
    -- The digits behind the first one have the value of a number that the first one adds to.
    rw [digitValue?_eq_some_iff small, Nat.zero_mul, Nat.zero_add, digitsValue?_eq_map,
      Option.map_eq_some_iff, ← exists_and_left]
    simp only [ih]

/-- A numeral that does not start with a sign is all digits. -/
theorem numeralOf_unsigned {base n : Nat} {c : Char} {rest : List Char} (unsigned : c ≠ '+') :
    NumeralOf base (c :: rest) n ↔ DigitsOf base (c :: rest) n := by
  constructor
  · intro numeral
    cases numeral with
    | plain _ made => exact made
    | signed _ _ => exact absurd rfl unsigned
  · exact .plain (List.cons_ne_nil c rest)

/-- A numeral that starts with a sign is one without it. -/
theorem numeralOf_signed {base n : Nat} {digits : List Char} (small : base ≤ 16) :
    NumeralOf base ('+' :: digits) n ↔ digits ≠ [] ∧ DigitsOf base digits n := by
  constructor
  · intro numeral
    cases numeral with
    | plain _ made =>
      -- The sign is no digit.
      cases made with
      | digit first _ =>
        have read := digitValue?_of_isDigit ⟨Nat.lt_of_lt_of_le first.1 small, first.2⟩
        simp [digitValue?] at read
    | signed written made => exact ⟨written, made⟩
  · rintro ⟨written, made⟩
    exact .signed written made

/-- Reading accepts exactly the numerals of numbers below the limit. -/
theorem readNumeral_eq_ok_iff {base limit n : Nat} {text : List Char} (positive : 0 < base)
    (small : base ≤ 16) (nonempty : 0 < limit) :
    readNumeral base limit text = .ok n ↔ NumeralOf base text n ∧ n < limit := by
  have digits : ∀ digits, readDigits base limit 0 digits = .ok n ↔
      DigitsOf base digits n ∧ n < limit := by
    intro digits
    rw [readDigits_eq_ok_iff positive nonempty, digitsValue?_eq_some_iff small]
  -- The cases are those of the reader: nothing, a lone sign, a sign in front, and no sign.
  unfold readNumeral
  split
  · constructor
    · simp
    · rintro ⟨⟨written, _⟩, _⟩
      exact absurd rfl written
  · rw [numeralOf_signed small]
    simp
  · rename_i rest more
    have written : rest ≠ [] := more
    rw [numeralOf_signed small, digits]
    simp [written]
  · rename_i given _ unsigned
    cases text with
    | nil => exact absurd rfl given
    | cons c rest =>
      have unsigned : c ≠ '+' := by
        rintro rfl
        exact unsigned rest rfl
      rw [numeralOf_unsigned unsigned, digits]

/-! Characters of numerals -/

/-- What holds of the sign and of all digits holds of every character of a numeral. -/
theorem NumeralOf.all_characters {P : Char → Prop} {base n : Nat} {text : List Char}
    (numeral : NumeralOf base text n) (small : base ≤ 16) (sign : P '+')
    (lower : ∀ value < 16, P (Nat.digitChar value))
    (upper : ∀ value < 16, P (Nat.digitChar value).toUpper) : ∀ c ∈ text, P c := by
  -- Behind a sign or not, it is the digits that the induction goes through.
  have digits : ∀ {digits n}, DigitsOf base digits n → ∀ c ∈ digits, P c := by
    intro digits n made
    induction made with
    | none => simp
    | digit first _ ih =>
      intro c member
      rcases List.mem_cons.mp member with rfl | later
      · obtain ⟨below, same⟩ := first
        rcases eq_of_toLower same with rfl | rfl
        · exact lower _ (by omega)
        · exact upper _ (by omega)
      · exact ih c later
  cases numeral with
  | plain _ made => exact digits made
  | signed _ made =>
    intro c member
    rcases List.mem_cons.mp member with rfl | later
    · exact sign
    · exact digits made c later

end BreakpointGlyph
