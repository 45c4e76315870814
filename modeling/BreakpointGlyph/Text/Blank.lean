/-! White space is the Unicode White_Space property, and trimming removes it at both ends. -/

namespace BreakpointGlyph

/-- A character is covered by one of several closed ranges of code points. -/
def inRanges (ranges : List (Nat × Nat)) (c : Char) : Bool :=
  ranges.any fun range => range.1 ≤ c.toNat && c.toNat ≤ range.2

/-- A character between the ends of one of the ranges is covered. -/
theorem inRanges_of_mem {ranges : List (Nat × Nat)} {range : Nat × Nat} {c : Char}
    (member : range ∈ ranges) (low : range.1 ≤ c.toNat) (high : c.toNat ≤ range.2) :
    inRanges ranges c = true :=
  -- That range is the one that is found.
  List.any_eq_true.mpr ⟨range, member, by simp [low, high]⟩

/-- The code points with the White_Space property, as closed ranges in ascending order. -/
def blankRanges : List (Nat × Nat) :=
  [(0x09, 0x0D), (0x20, 0x20), (0x85, 0x85), (0xA0, 0xA0), (0x1680, 0x1680), (0x2000, 0x200A),
    (0x2028, 0x2029), (0x202F, 0x202F), (0x205F, 0x205F), (0x3000, 0x3000)]

/-- A blank character has the White_Space property. -/
def isBlank (c : Char) : Bool :=
  inRanges blankRanges c

/-- Trimming removes the longest blank stretches at the start and at the end. -/
def trim (text : List Char) : List Char :=
  ((text.dropWhile isBlank).reverse.dropWhile isBlank).reverse

/-- A text without its white space and its commas. -/
def withoutSpacing (text : List Char) : List Char :=
  text.filter fun c => !isBlank c && c != ','

/-- The characters that core counts as white space are all blank. -/
theorem isBlank_of_isWhitespace {c : Char} (white : c.isWhitespace = true) : isBlank c = true := by
  -- Core lists four characters, and each lies in one of the first two ranges.
  simp only [Char.isWhitespace, Bool.or_eq_true, decide_eq_true_eq] at white
  rcases white with ((rfl | rfl) | rfl) | rfl <;> decide

/-- Trimming never lengthens a text. -/
theorem length_trim_le (text : List Char) : (trim text).length ≤ text.length := by
  -- Both removals shorten or keep the text, and reversing keeps its length.
  have front := (List.dropWhile_suffix isBlank (l := text)).length_le
  have back := (List.dropWhile_suffix isBlank (l := (text.dropWhile isBlank).reverse)).length_le
  simp only [trim, List.length_reverse] at *
  omega

end BreakpointGlyph
