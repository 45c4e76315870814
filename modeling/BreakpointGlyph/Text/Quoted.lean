import BreakpointGlyph.Text.Printable

/-! Quoted text: a text between double quotes in which every character can be told apart. -/

namespace BreakpointGlyph

/-- A code point between braces, in lower-case hexadecimal digits. -/
def codePointEscape (c : Char) : List Char :=
  '\\' :: 'u' :: '{' :: Nat.toDigits 16 c.toNat ++ ['}']

/-- A quoted character stands for itself unless it has a short escape or cannot be seen alone. -/
def quoteChar (c : Char) : List Char :=
  if c = '\x00' then ['\\', '0']
  else if c = '\t' then ['\\', 't']
  else if c = '\n' then ['\\', 'n']
  else if c = '\r' then ['\\', 'r']
  else if c = '\\' then ['\\', '\\']
  else if c = '\"' then ['\\', '\"']
  else if isCombining c || !isPrintable c then codePointEscape c
  else [c]

/-- The quoted form of a text. -/
def quote (text : String) : String :=
  String.ofList ('\"' :: text.toList.flatMap quoteChar ++ ['\"'])

/-- A text made of plain printable characters is quoted by adding the two quotes only. -/
example : quote "a b" = "\"a b\"" := by decide +kernel

/-- A quote, a line feed and a combining mark are escaped. -/
example : quote "\"\n\u0301" = "\"\\\"\\n\\u\x7b301\x7d\"" := by decide +kernel

end BreakpointGlyph
