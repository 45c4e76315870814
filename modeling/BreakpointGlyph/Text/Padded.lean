/-! Text laid out in a column: cut to a greatest length, then filled with spaces to a width. -/

namespace BreakpointGlyph

/-- Where a text stands in a column that is wider than the text. -/
inductive Alignment where
  | left
  | center
  | right
deriving DecidableEq, Repr

/-- A column: at most `precision` characters are kept, and at least `width` are written. -/
structure Column where
  width : Option Nat
  precision : Option Nat
  alignment : Option Alignment

/-- The spaces on the left of a text, out of those that fill its column; the left is the default. -/
def Column.leftShare (column : Column) (spaces : Nat) : Nat :=
  match column.alignment with
  | some .right => spaces
  | some .center => spaces / 2
  | some .left => 0
  | none => 0

/-- Writes a text into a column; an odd space of a centered text stands on the right. -/
def Column.fill (column : Column) (text : String) : String :=
  let kept := match column.precision with
    | some most => text.toList.take most
    | none => text.toList
  let spaces := column.width.getD 0 - kept.length
  let front := column.leftShare spaces
  String.ofList (List.replicate front ' ' ++ kept ++ List.replicate (spaces - front) ' ')

end BreakpointGlyph
