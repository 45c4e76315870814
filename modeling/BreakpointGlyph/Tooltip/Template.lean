import BreakpointGlyph.Tooltip.Label

/-! Templates put together from parts: literal text, with its braces doubled, and placeholders. -/

namespace BreakpointGlyph

/-- A part of a template: text that is meant as it stands, or the place of an argument. -/
inductive TemplatePart where
  | literal (text : String)
  | placeholder (index : Nat)
deriving DecidableEq, Repr

/-- A text in which every brace is written twice. -/
def doubleBraces (text : List Char) : List Char :=
  text.flatMap fun c => if c = '{' ∨ c = '}' then [c, c] else [c]

/-- A placeholder: the decimal number of an argument between braces. -/
def placeholderText (index : Nat) : List Char :=
  '{' :: Nat.toDigits 10 index ++ ['}']

/-- The number of closing braces that a text starts with. -/
def closingRun (text : List Char) : Nat :=
  (text.takeWhile (· == '}')).length

/-- A part as it is written in a template. -/
def TemplatePart.encode : TemplatePart → List Char
  | .literal text => doubleBraces text.toList
  | .placeholder index => placeholderText index

/-- The template that is made of some parts. -/
def encodeTemplate (parts : List TemplatePart) : String :=
  String.ofList (parts.flatMap TemplatePart.encode)

/-- What a part stands for; a placeholder of a missing argument stands for itself. -/
def TemplatePart.expand (arguments : List String) : TemplatePart → List Char
  | .literal text => text.toList
  | .placeholder index =>
    match arguments[index]? with
    | some argument => argument.toList
    | none => placeholderText index

/-- What some parts stand for, one after the other. -/
def expandParts (arguments : List String) (parts : List TemplatePart) : String :=
  String.ofList (parts.flatMap (·.expand arguments))

end BreakpointGlyph
