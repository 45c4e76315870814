import BreakpointGlyph.Error
import BreakpointGlyph.Location.Position

/-! A snapshot of a text answers which line and character an offset falls on. -/

namespace BreakpointGlyph

/-- The offsets at which the lines after the first one start, for a text that starts at `offset`. -/
def laterLineStarts (offset : Nat) : List Char → List Nat
  | [] => []
  | '\r' :: '\n' :: rest => (offset + 2) :: laterLineStarts (offset + 2) rest
  | '\r' :: rest => (offset + 1) :: laterLineStarts (offset + 1) rest
  | '\n' :: rest => (offset + 1) :: laterLineStarts (offset + 1) rest
  | _ :: rest => laterLineStarts (offset + 1) rest

/-- The length of a text in characters and the offset at which each of its lines starts. -/
structure TextSnapshot where
  length : Nat
  lineStarts : Array Nat

/-- Takes the snapshot of a text. -/
def TextSnapshot.ofText (text : String) : TextSnapshot :=
  let characters := text.toList
  ⟨characters.length, (0 :: laterLineStarts 0 characters).toArray⟩

/-- A snapshot of the empty text. -/
def TextSnapshot.isEmpty (snapshot : TextSnapshot) : Bool :=
  snapshot.length == 0

/-- The number of lines; a line break at the end of the text starts an empty last line. -/
def TextSnapshot.lineCount (snapshot : TextSnapshot) : Nat :=
  snapshot.lineStarts.size

/-- Searches ascending numbers from `low` up to `high` for the first one above a bound. -/
def firstAbove (numbers : Array Nat) (bound low high : Nat) (inside : high ≤ numbers.size) : Nat :=
  if pending : low < high then
    -- Half of the numbers in question are ruled out by the one in the middle.
    let middle := low + (high - low) / 2
    if numbers[middle] ≤ bound then firstAbove numbers bound (middle + 1) high inside
    else firstAbove numbers bound low middle (by omega)
  else low
termination_by high - low

/-- The line that an offset lies on: the one before the first line that starts behind it. -/
def TextSnapshot.lineAt (snapshot : TextSnapshot) (offset : Nat) : Nat :=
  firstAbove snapshot.lineStarts offset 0 snapshot.lineStarts.size (Nat.le_refl _) - 1

/-- The position of an offset; the end of the text has one too. -/
def TextSnapshot.positionAt (snapshot : TextSnapshot) (offset : Nat) :
    Except GlyphError CursorPosition :=
  if snapshot.length < offset then .error (.offsetOutOfRange offset snapshot.length)
  else
    let line := snapshot.lineAt offset
    .ok ⟨line, offset - snapshot.lineStarts.getD line 0⟩

/-- The starts of the lines ascend from zero, and none of them is behind the end of the text. -/
structure TextSnapshot.Ordered (snapshot : TextSnapshot) : Prop where
  ascending : snapshot.lineStarts.toList.Pairwise (· < ·)
  first : snapshot.lineStarts[0]? = some 0
  inside : ∀ start ∈ snapshot.lineStarts, start ≤ snapshot.length

/-- A position is where an offset lies: the search passes the starts up to that of its line, which
exists, and the column is what is left of the offset behind that start. -/
structure TextSnapshot.Locates (snapshot : TextSnapshot) (offset : Nat)
    (position : CursorPosition) : Prop where
  answer : snapshot.positionAt offset = .ok position
  searched : firstAbove snapshot.lineStarts offset 0 snapshot.lineStarts.size (Nat.le_refl _) =
    position.line + 1
  counted : ∃ start, snapshot.lineStarts[position.line]? = some start ∧
    start + position.column = offset

end BreakpointGlyph
