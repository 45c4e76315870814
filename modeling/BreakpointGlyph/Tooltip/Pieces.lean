import BreakpointGlyph.Tooltip.Label

/-! What a template says before it is filled: characters that stand for themselves, and places of
arguments. -/

namespace BreakpointGlyph

/-- A piece of a label: a character that stands for itself, or the place of an argument. -/
inductive LabelPiece where
  | literal (c : Char)
  | argument (index : Nat)
deriving DecidableEq, Repr

/-- The text that a piece becomes. -/
def LabelPiece.fill (arguments : List String) : LabelPiece → List Char
  | .literal c => [c]
  | .argument index => (arguments[index]?.getD "").toList

/-- Reads the rest of a placeholder after its brace, if it names one of `count` arguments. -/
def placeholder? (count : Nat) (text : List Char) : Option (Nat × List Char) :=
  (placeholderNumber? text).filter fun (index, _) => index < count

/-- A placeholder that is read is one whose number is that of an argument. -/
theorem placeholder?_eq_some_iff {count index : Nat} {text after : List Char} :
    placeholder? count text = some (index, after) ↔
      placeholderNumber? text = some (index, after) ∧ index < count := by
  simp [placeholder?, Option.filter_eq_some_iff]

/-- The pieces of a template that is filled with `count` arguments; a lone brace is literal. -/
def labelPieces (count : Nat) : List Char → List LabelPiece
  | [] => []
  | '{' :: '{' :: rest => .literal '{' :: labelPieces count rest
  | '}' :: '}' :: rest => .literal '}' :: labelPieces count rest
  | '{' :: rest =>
    match found : placeholder? count rest with
    | some (index, after) =>
      have := length_of_placeholderNumber? (placeholder?_eq_some_iff.mp found).1
      .argument index :: labelPieces count after
    | none => .literal '{' :: labelPieces count rest
  | c :: rest => .literal c :: labelPieces count rest
termination_by text => text.length

/-- An empty template has no pieces. -/
@[simp] theorem labelPieces_nil (count : Nat) : labelPieces count [] = [] := by
  rw [labelPieces]

/-- Two opening braces are one that stands for itself. -/
@[simp] theorem labelPieces_openPair (count : Nat) (rest : List Char) :
    labelPieces count ('{' :: '{' :: rest) = .literal '{' :: labelPieces count rest := by
  rw [labelPieces]

/-- Two closing braces are one that stands for itself. -/
@[simp] theorem labelPieces_closePair (count : Nat) (rest : List Char) :
    labelPieces count ('}' :: '}' :: rest) = .literal '}' :: labelPieces count rest := by
  rw [labelPieces]

/-- An opening brace without a second one starts a placeholder, or else stands for itself. -/
theorem labelPieces_open {count : Nat} {rest : List Char} (unpaired : rest.head? ≠ some '{') :
    labelPieces count ('{' :: rest) =
      match placeholder? count rest with
      | some (index, after) => .argument index :: labelPieces count after
      | none => .literal '{' :: labelPieces count rest := by
  rw [labelPieces]
  · split <;> simp_all
  · rintro _ rfl
    simp at unpaired

/-- A closing brace without a second one stands for itself. -/
theorem labelPieces_close {count : Nat} {rest : List Char} (unpaired : rest.head? ≠ some '}') :
    labelPieces count ('}' :: rest) = .literal '}' :: labelPieces count rest := by
  rw [labelPieces]
  · simp
  · rintro _ _ rfl
    simp at unpaired
  · simp

/-- Any other character stands for itself. -/
theorem labelPieces_plain {count : Nat} {c : Char} {rest : List Char} (opens : c ≠ '{')
    (closes : c ≠ '}') : labelPieces count (c :: rest) = .literal c :: labelPieces count rest := by
  rw [labelPieces] <;> simp_all

end BreakpointGlyph
