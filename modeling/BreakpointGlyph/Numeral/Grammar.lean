import BreakpointGlyph.Text.Blank
import Mathlib.Algebra.Group.Nat.Defs

/-! What numbers look like in a text, whoever reads them: digits, an optional plus sign, a marker of
the base, and white space around it all. -/

namespace BreakpointGlyph

/-- A character is the digit of a value below the base, letters being of either case. -/
def IsDigit (base : Nat) (c : Char) (value : Nat) : Prop :=
  value < base ∧ c.toLower = Nat.digitChar value

/-- The number that some digits make, where each of them counts as many times the base as there are
digits behind it; there may be none. -/
inductive DigitsOf (base : Nat) : List Char → Nat → Prop
  | none : DigitsOf base [] 0
  | digit {c : Char} {value : Nat} {rest : List Char} {n : Nat} (first : IsDigit base c value)
      (others : DigitsOf base rest n) :
      DigitsOf base (c :: rest) (value * base ^ rest.length + n)

/-- A numeral has at least one digit and perhaps a plus sign in front; zeros may lead. -/
inductive NumeralOf (base : Nat) : List Char → Nat → Prop
  | plain {digits : List Char} {n : Nat} (written : digits ≠ []) (made : DigitsOf base digits n) :
      NumeralOf base digits n
  | signed {digits : List Char} {n : Nat} (written : digits ≠ []) (made : DigitsOf base digits n) :
      NumeralOf base ('+' :: digits) n

/-- A number is a decimal numeral, or a hexadecimal one behind a marker. -/
inductive NumberOf : List Char → Nat → Prop
  | decimal {digits : List Char} {n : Nat} (numeral : NumeralOf 10 digits n) : NumberOf digits n
  | hexadecimal {mark : Char} {digits : List Char} {n : Nat} (marked : mark = 'x' ∨ mark = 'X')
      (numeral : NumeralOf 16 digits n) : NumberOf ('0' :: mark :: digits) n

/-- A number as typed, with any white space around it. -/
def TypedNumber (text : List Char) (n : Nat) : Prop :=
  ∃ before number after, text = before ++ number ++ after ∧
    (∀ c ∈ before, isBlank c = true) ∧ (∀ c ∈ after, isBlank c = true) ∧ NumberOf number n

end BreakpointGlyph
