/-! Decimal numbers with a sign, a point and an exponent, each of which may be missing. -/

namespace BreakpointGlyph

/-- An exponent: a letter, an optional sign and at least one digit. -/
def isExponent : List Char → Bool
  | [] => false
  | mark :: text =>
    let digits := if text.head? = some '+' ∨ text.head? = some '-' then text.tail else text
    (mark == 'e' || mark == 'E') && !digits.isEmpty && digits.all Char.isDigit

/-- Digits around an optional point, at least one in all, and an optional exponent. -/
def isMagnitude (text : List Char) : Bool :=
  let whole := text.takeWhile Char.isDigit
  let rest := text.dropWhile Char.isDigit
  let pointed := rest.head? == some '.'
  let fraction := if pointed then rest.tail.takeWhile Char.isDigit else []
  let tail := if pointed then rest.tail.dropWhile Char.isDigit else rest
  !(whole.isEmpty && fraction.isEmpty) && (tail.isEmpty || isExponent tail)

/-- The words for what no digits can write, in letters of either case. -/
def numberWords : List (List Char) :=
  ["inf".toList, "infinity".toList, "nan".toList]

/-- A number: an optional sign, then digits or a word. -/
def isDecimalNumber (text : List Char) : Bool :=
  let magnitude := if text.head? = some '+' ∨ text.head? = some '-' then text.tail else text
  isMagnitude magnitude || numberWords.contains (magnitude.map Char.toLower)

/-- A number needs a digit on one side of its point. -/
example : isDecimalNumber ['+', '.', '5', 'e', '1'] = true ∧
    isDecimalNumber ['-', '7', '.'] = true ∧ isDecimalNumber ['+', '.'] = false := by decide

end BreakpointGlyph
