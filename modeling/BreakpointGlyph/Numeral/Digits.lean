/-! Unsigned numerals: digits of a base with an optional plus sign, read below a limit. -/

namespace BreakpointGlyph

/-- What is wrong with a text that should be a numeral. -/
inductive NumeralError where
  | empty
  | invalidDigit
  | tooLarge
deriving DecidableEq, Repr

/-- The wording of a numeral's fault. -/
def NumeralError.message : NumeralError → String
  | .empty => "cannot parse integer from empty string"
  | .invalidDigit => "invalid digit found in string"
  | .tooLarge => "number too large to fit in target type"

/-- The value of a digit or of a letter of either case, where it is below the base. -/
def digitValue? (base : Nat) (c : Char) : Option Nat :=
  let value :=
    if '0' ≤ c ∧ c ≤ '9' then c.toNat - '0'.toNat
    else if 'a' ≤ c ∧ c ≤ 'z' then c.toNat - 'a'.toNat + 10
    else if 'A' ≤ c ∧ c ≤ 'Z' then c.toNat - 'A'.toNat + 10
    else base
  if value < base then some value else none

/-- Reads digits after those that made `value`, stopping at the first that is wrong or too much. -/
def readDigits (base limit value : Nat) : List Char → Except NumeralError Nat
  | [] => .ok value
  | c :: rest =>
    match digitValue? base c with
    | none => .error .invalidDigit
    | some digit =>
      let next := value * base + digit
      if next < limit then readDigits base limit next rest else .error .tooLarge

/-- Reads a whole numeral below a limit: an optional plus sign, then at least one digit. -/
def readNumeral (base limit : Nat) : List Char → Except NumeralError Nat
  | [] => .error .empty
  | ['+'] => .error .invalidDigit
  | '+' :: digits => readDigits base limit 0 digits
  | digits => readDigits base limit 0 digits

/-- The digits of a number in base sixteen, letters in upper case. -/
def upperHexDigits (n : Nat) : List Char :=
  (Nat.toDigits 16 n).map Char.toUpper

/-- A hexadecimal numeral: its marker, then at least `width` digits, zeros in front. -/
def hexText (width n : Nat) : String :=
  String.ofList ('0' :: 'x' :: List.leftpad width '0' (upperHexDigits n))

/-- A small number is filled up with zeros, and a large one has all its digits. -/
example : hexText 4 0x2A = "0x002A" ∧ hexText 4 0x12345 = "0x12345" := by decide +kernel

end BreakpointGlyph
