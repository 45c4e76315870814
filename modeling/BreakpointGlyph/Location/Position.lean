/-! Positions in a text: counted from zero inside, shown to a reader counted from one. -/

namespace BreakpointGlyph

/-- A line and a character within it, both counted from zero. -/
structure CursorPosition where
  line : Nat
  column : Nat
deriving DecidableEq, Repr

/-- Positions are ordered as they are read: by line, and by character within a line. -/
instance : LT CursorPosition where
  lt position other :=
    position.line < other.line ∨ (position.line = other.line ∧ position.column < other.column)

instance (position other : CursorPosition) : Decidable (position < other) :=
  inferInstanceAs (Decidable (_ ∨ (_ ∧ _)))

/-- The number of the line as shown. -/
def CursorPosition.shownLine (position : CursorPosition) : Nat :=
  position.line + 1

/-- The number of the character within its line as shown. -/
def CursorPosition.shownCharacter (position : CursorPosition) : Nat :=
  position.column + 1

/-- A position as shown. -/
def CursorPosition.text (position : CursorPosition) : String :=
  "line " ++ position.shownLine.repr ++ ", character " ++ position.shownCharacter.repr

end BreakpointGlyph
