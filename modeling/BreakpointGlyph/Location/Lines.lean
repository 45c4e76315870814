/-! Texts in lines: each line but the last has a break behind it, and breaks are spelled in
different ways. -/

namespace BreakpointGlyph

/-- The ways to spell a line break: a line feed, a carriage return, or both. -/
inductive LineBreak where
  | feed
  | pair
  | carriage
deriving DecidableEq, Repr

/-- A line break as written. -/
def LineBreak.text : LineBreak → List Char
  | .feed => ['\n']
  | .pair => ['\r', '\n']
  | .carriage => ['\r']

/-- A line, which has no character in it that a break is spelled with. -/
structure Line where
  text : List Char
  unbroken : ∀ c ∈ text, c ≠ '\r' ∧ c ≠ '\n'

/-- A line with the break behind it. -/
structure EndedLine extends Line where
  ending : LineBreak

/-- A line and its break as written. -/
def EndedLine.written (line : EndedLine) : List Char :=
  line.text ++ line.ending.text

/-- Lines and their breaks as written. -/
def writtenLines (lines : List EndedLine) : List Char :=
  lines.flatMap EndedLine.written

/-- A carriage return and a line feed with nothing but an empty line between them spell one break
instead of two. -/
def EndedLine.Merges (line next : EndedLine) : Prop :=
  line.ending = .carriage ∧ next.text = [] ∧ next.ending = .feed

instance (line next : EndedLine) : Decidable (line.Merges next) :=
  inferInstanceAs (Decidable (_ ∧ _ ∧ _))

/-- A text in lines, in which no two breaks spell one. -/
structure LinedText where
  ended : List EndedLine
  last : Line
  apart : ∀ pair ∈ ended.zip ended.tail, ¬pair.1.Merges pair.2

/-- A text in lines as written. -/
def LinedText.text (lined : LinedText) : List Char :=
  writtenLines lined.ended ++ lined.last.text

/-- The lines of a text without their breaks. -/
def LinedText.lines (lined : LinedText) : List (List Char) :=
  lined.ended.map (·.text) ++ [lined.last.text]

/-- The offset of a line: the number of characters in the lines and breaks in front of it. -/
def LinedText.start (lined : LinedText) (line : Nat) : Nat :=
  (writtenLines (lined.ended.take line)).length

end BreakpointGlyph
