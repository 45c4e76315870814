import BreakpointGlyph.Location.Position

/-! A cursor that reads a text character by character, from line to line. -/

namespace BreakpointGlyph

/-- A character ends its line if it is a line feed, or a carriage return with none behind it. -/
def endsLine (c : Char) (rest : List Char) : Bool :=
  c == '\n' || (c == '\r' && rest.head? != some '\n')

/-- Where the cursor goes when it reads a character that the rest of the text follows. -/
def CursorPosition.advance (position : CursorPosition) (c : Char) (rest : List Char) :
    CursorPosition :=
  if endsLine c rest then ⟨position.line + 1, 0⟩ else ⟨position.line, position.column + 1⟩

/-- Where the cursor goes when it reads the first `count` characters of a text. -/
def CursorPosition.walk (position : CursorPosition) : Nat → List Char → CursorPosition
  | count + 1, c :: rest => (position.advance c rest).walk count rest
  | _, _ => position

end BreakpointGlyph
