import BreakpointGlyph.Proofs.Numeral.Digits

/-! Hexadecimal numerals have the value of their number, so different numbers look different. -/

namespace BreakpointGlyph

/-- Digits behind others go on from the value of those. -/
theorem digitsValue?_append (base value : Nat) (front back : List Char) :
    digitsValue? base value (front ++ back) =
      (digitsValue? base value front).bind fun middle => digitsValue? base middle back := by
  induction front generalizing value with
  | nil => rfl
  | cons c front ih =>
    -- The first digit is read on both sides alike, if it is one.
    rw [List.cons_append, digitsValue?, digitsValue?, Option.bind_assoc]
    simp only [ih]

/-- Zeros in front of a numeral do not count. -/
theorem digitsValue?_zeros {base : Nat} (positive : 0 < base) (zeros : Nat) (text : List Char) :
    digitsValue? base 0 (List.replicate zeros '0' ++ text) = digitsValue? base 0 text := by
  have zero : digitValue? base '0' = some 0 := by simp [digitValue?, positive]
  -- A zero leaves the value at zero, with which the digits behind it start.
  induction zeros with
  | zero => rfl
  | succ zeros ih =>
    rw [List.replicate_succ, List.cons_append, digitsValue?, zero, Option.bind_some, Nat.zero_mul,
      Nat.zero_add, ih]

/-- Each of the sixteen digits has its own value. -/
theorem digitValue?_digitChar :
    ∀ digit < 16, digitValue? 16 (Nat.digitChar digit).toUpper = some digit := by
  decide

/-- The digits that a number is written with in base sixteen have that number as their value. -/
theorem digitsValue?_upperHexDigits (n : Nat) : digitsValue? 16 0 (upperHexDigits n) = some n := by
  -- All digits but the last are those of a sixteenth of the number.
  induction n using Nat.strongRecOn with
  | ind n ih =>
    rw [upperHexDigits, Nat.toDigits_eq_if (by decide)]
    split
    · rename_i small
      simp [digitsValue?, digitValue?_digitChar n small]
    · rename_i large
      -- The last digit is the remainder.
      have front := ih (n / 16) (by omega)
      have last := digitValue?_digitChar (n % 16) (Nat.mod_lt n (by decide))
      rw [upperHexDigits] at front
      rw [List.map_append, digitsValue?_append, front]
      simp only [Option.bind_some, List.map_cons, List.map_nil, digitsValue?, last,
        Option.some.injEq]
      omega

/-- Filling up a numeral with zeros keeps its value. -/
theorem digitsValue?_padded (width n : Nat) :
    digitsValue? 16 0 (List.leftpad width '0' (upperHexDigits n)) = some n := by
  rw [List.leftpad, digitsValue?_zeros (by decide), digitsValue?_upperHexDigits]

/-- Numerals of the same width are the same only if their numbers are. -/
theorem hexText_inj {width n m : Nat} : hexText width n = hexText width m ↔ n = m := by
  constructor
  · intro same
    have digits : List.leftpad width '0' (upperHexDigits n) =
        List.leftpad width '0' (upperHexDigits m) := by
      simpa only [hexText, String.ofList_inj, List.cons.injEq, true_and] using same
    -- The same digits have the same value.
    have values := congrArg (digitsValue? 16 0) digits
    simpa only [digitsValue?_padded, Option.some.injEq] using values
  · rintro rfl
    rfl

end BreakpointGlyph
