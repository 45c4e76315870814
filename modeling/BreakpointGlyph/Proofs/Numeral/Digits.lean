import BreakpointGlyph.Numeral.Digits

/-! Reading a numeral gives the value of its digits, unless that value is too large. -/

namespace BreakpointGlyph

/-- The value of some digits that follow those that made `value`, with no limit to it. -/
def digitsValue? (base value : Nat) : List Char → Option Nat
  | [] => some value
  | c :: rest =>
    (digitValue? base c).bind fun digit => digitsValue? base (value * base + digit) rest

/-- Further digits never make a value smaller. -/
theorem le_digitsValue? {base value total : Nat} {text : List Char} (positive : 0 < base)
    (read : digitsValue? base value text = some total) : value ≤ total := by
  induction text generalizing value with
  | nil => simp_all [digitsValue?]
  | cons c rest ih =>
    -- One more digit multiplies the value by a positive base and adds to it.
    obtain ⟨digit, _, read⟩ := Option.bind_eq_some_iff.mp read
    calc
      value ≤ value * base := Nat.le_mul_of_pos_right value positive
      _ ≤ value * base + digit := Nat.le_add_right _ digit
      _ ≤ total := ih read

/-- Digits are read exactly where their value is below the limit. -/
theorem readDigits_eq_ok_iff {base limit value result : Nat} {text : List Char}
    (positive : 0 < base) (below : value < limit) :
    readDigits base limit value text = .ok result ↔
      digitsValue? base value text = some result ∧ result < limit := by
  -- The value so far never exceeds the value in the end, so no limit is passed too early.
  induction text generalizing value with
  | nil =>
    simp only [readDigits, digitsValue?, Except.ok.injEq, Option.some.injEq]
    constructor
    · rintro rfl
      exact ⟨rfl, below⟩
    · exact fun read => read.1
  | cons c rest ih =>
    simp only [readDigits, digitsValue?]
    cases digitValue? base c with
    | none => simp
    | some digit =>
      simp only [Option.bind_some]
      split
      · rename_i fits
        exact ih fits
      · -- Past the limit the reader stops, and further digits would not have led back below it.
        rename_i exceeds
        constructor
        · simp
        · rintro ⟨read, small⟩
          have grown := le_digitsValue? positive read
          omega

/-- A decimal digit has its place after zero as its value. -/
theorem digitValue?_isDigit {c : Char} (digit : c.isDigit = true) :
    digitValue? 10 c = some (c.toNat - '0'.toNat) := by
  -- Of the three ranges that have values, only the first holds it.
  simp only [Char.isDigit, Bool.and_eq_true, decide_eq_true_eq] at digit
  have ordered : '0' ≤ c ∧ c ≤ '9' := digit
  have high : c.toNat ≤ 57 := UInt32.le_iff_toNat_le.mp digit.2
  have small : c.toNat - 48 < 10 := by omega
  simp [digitValue?, ordered, small]

/-- The digits that a number is written with have that number as their value. -/
theorem digitsValue?_toDigits (n : Nat) : digitsValue? 10 0 (Nat.toDigits 10 n) = some n := by
  -- Digits in front of others count ten times as much, so the value so far stays quantified over.
  have general : ∀ (text : List Char) (value : Nat), (∀ c ∈ text, c.isDigit = true) →
      digitsValue? 10 value text = some (Nat.ofDigitChars 10 text value) := by
    intro text
    induction text with
    | nil => intro value _; simp [digitsValue?]
    | cons c rest ih =>
      intro value digits
      rw [digitsValue?, digitValue?_isDigit (digits c (by simp)), Option.bind_some,
        ih _ fun other member => digits other (by simp [member]), Nat.ofDigitChars_cons,
        Nat.mul_comm]
  rw [general _ 0 fun c member => Nat.isDigit_of_mem_toDigits (by decide) (by decide) member,
    Nat.ofDigitChars_ten_toDigits]

/-- A decimal numeral is read exactly where its number is below the limit. -/
theorem readNumeral_toDigits {limit n result : Nat} (positive : 0 < limit) :
    readNumeral 10 limit (Nat.toDigits 10 n) = .ok result ↔ n = result ∧ n < limit := by
  -- The numeral has a first character, which is no sign.
  have unsigned : readNumeral 10 limit (Nat.toDigits 10 n) =
      readDigits 10 limit 0 (Nat.toDigits 10 n) := by
    have digits : ∀ c ∈ Nat.toDigits 10 n, c.isDigit = true :=
      fun c member => Nat.isDigit_of_mem_toDigits (by decide) (by decide) member
    cases written : Nat.toDigits 10 n with
    | nil => exact absurd written Nat.toDigits_ne_nil
    | cons c rest =>
      have first := digits c (by simp [written])
      have noSign : c ≠ '+' := by rintro rfl; simp at first
      rw [readNumeral] <;> simp_all
  -- What is left to compare is the number itself and the value of its digits.
  rw [unsigned, readDigits_eq_ok_iff (by decide) positive, digitsValue?_toDigits,
    Option.some.injEq]
  constructor
  · rintro ⟨rfl, below⟩
    exact ⟨rfl, below⟩
  · rintro ⟨rfl, below⟩
    exact ⟨rfl, below⟩

end BreakpointGlyph
