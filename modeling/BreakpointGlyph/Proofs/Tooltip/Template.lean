import BreakpointGlyph.Proofs.Numeral.Digits
import BreakpointGlyph.Proofs.Tooltip.Pieces
import BreakpointGlyph.Tooltip.Template

/-! A template made of parts is filled part by part, however the braces of the parts meet. -/

namespace BreakpointGlyph

/-- No brace is among the digits of a number. -/
theorem brace_not_mem_toDigits (index : Nat) :
    ∀ c ∈ Nat.toDigits 10 index, c ≠ '{' ∧ c ≠ '}' := by
  -- They are all decimal.
  intro c member
  have digit := Nat.isDigit_of_mem_toDigits (by decide) (by decide) member
  constructor <;> rintro rfl <;> simp at digit

/-- A written placeholder is read if it names an argument and a word can hold its number. -/
theorem placeholder?_digits (count index : Nat) (rest : List Char) :
    placeholder? count (Nat.toDigits 10 index ++ '}' :: rest) =
      if index < count ∧ index < UInt64.size then some (index, rest) else none := by
  -- The closing brace is the first one behind the digits.
  have absent : '}' ∉ Nat.toDigits 10 index :=
    fun member => (brace_not_mem_toDigits index '}' member).2 rfl
  have cut := cutAtFirst_append absent rest
  have read := @readNumeral_toDigits UInt64.size index
  simp only [placeholder?, placeholderNumber?, cut]
  split
  · -- A number that is not read is one that a word cannot hold.
    rename_i error fault
    have large : ¬index < UInt64.size := by
      intro small
      have value := (read (by decide)).mpr ⟨rfl, small⟩
      simp [value] at fault
    simp [large]
  · rename_i number value
    obtain ⟨rfl, small⟩ := (read (by decide)).mp value
    simp [Option.filter_some, small]

/-- Text without braces stands for itself. -/
theorem labelPieces_append_plain {count : Nat} {front : List Char}
    (plain : ∀ c ∈ front, c ≠ '{' ∧ c ≠ '}') (rest : List Char) :
    labelPieces count (front ++ rest) = front.map .literal ++ labelPieces count rest := by
  -- A character that is no brace never looks at what follows it.
  induction front with
  | nil => rfl
  | cons c front ih =>
    obtain ⟨opens, closes⟩ := plain c (by simp)
    rw [List.cons_append, labelPieces_plain opens closes,
      ih fun other member => plain other (by simp [member])]
    rfl

/-- A text keeps its pieces if a closing brace is put in front of it, which is then a piece too. -/
def StaysApart (count : Nat) (text : List Char) : Prop :=
  labelPieces count ('}' :: text) = .literal '}' :: labelPieces count text

/-- A text that does not start with a closing brace stays apart. -/
theorem StaysApart.of_head {count : Nat} {text : List Char} (unpaired : text.head? ≠ some '}') :
    StaysApart count text :=
  labelPieces_close unpaired

/-- Pairs of closing braces stay apart if what follows them does. -/
theorem StaysApart.closePair {count : Nat} {text : List Char} (apart : StaysApart count text) :
    StaysApart count ('}' :: '}' :: text) := by
  -- Of three braces the last is left over, and what follows leaves it alone.
  rw [StaysApart, labelPieces_closePair, labelPieces_closePair, apart]

/-- Literal text stays apart if what follows it does. -/
theorem StaysApart.literal {count : Nat} {rest : List Char} (apart : StaysApart count rest)
    (text : List Char) : StaysApart count (doubleBraces text ++ rest) := by
  -- Only a doubled closing brace could pair with the one in front, and it comes with a partner.
  induction text with
  | nil => exact apart
  | cons c text ih =>
    by_cases closes : c = '}'
    · subst closes
      exact ih.closePair
    · refine .of_head ?_
      by_cases opens : c = '{' <;> simp [doubleBraces, opens, closes]

/-- The parts of a template stay apart from a closing brace in front of them. -/
theorem StaysApart.parts (count : Nat) (parts : List TemplatePart) :
    StaysApart count (parts.flatMap TemplatePart.encode) := by
  -- From the back: a placeholder starts with an opening brace, and literal text passes it on.
  induction parts with
  | nil => exact .of_head (by simp)
  | cons part rest ih =>
    rw [List.flatMap_cons]
    cases part with
    | literal text => exact ih.literal text.toList
    | placeholder index => exact .of_head (by simp [TemplatePart.encode, placeholderText])

/-- Literal text is filled in as it stands. -/
theorem labelPieces_literal (count : Nat) (text rest : List Char) :
    labelPieces count (doubleBraces text ++ rest) =
      text.map .literal ++ labelPieces count rest := by
  -- Every doubled brace is met as a pair, since an even number of braces stands in front of it.
  induction text with
  | nil => rfl
  | cons c text ih =>
    have step : doubleBraces (c :: text) =
        (if c = '{' ∨ c = '}' then [c, c] else [c]) ++ doubleBraces text := rfl
    rw [step, List.append_assoc]
    by_cases opens : c = '{'
    · simp [opens, ih]
    · by_cases closes : c = '}'
      · simp [closes, ih]
      · simp [opens, closes, labelPieces_plain opens closes, ih]

/-- A placeholder becomes the place of its argument if there is one. If not, it is literal text up
to its closing brace, which is then read together with what follows it. -/
theorem labelPieces_placeholderText (count index : Nat) (rest : List Char) :
    labelPieces count (placeholderText index ++ rest) =
      if index < count ∧ index < UInt64.size then .argument index :: labelPieces count rest
      else ('{' :: Nat.toDigits 10 index).map .literal ++ labelPieces count ('}' :: rest) := by
  -- The digits keep its opening brace from pairing with another one.
  have digits := brace_not_mem_toDigits index
  have shape : placeholderText index ++ rest = '{' :: (Nat.toDigits 10 index ++ '}' :: rest) := by
    simp [placeholderText]
  have unpaired : (Nat.toDigits 10 index ++ '}' :: rest).head? ≠ some '{' := by
    cases written : Nat.toDigits 10 index with
    | nil => simp
    | cons c others =>
      simpa using (digits c (by simp [written])).1
  rw [shape, labelPieces_open unpaired, placeholder?_digits]
  by_cases named : index < count ∧ index < UInt64.size
  · simp only [if_pos named]
  · simp [if_neg named, labelPieces_append_plain digits]

/-- A placeholder becomes the place of its argument if there is one, and literal text if not. -/
theorem labelPieces_placeholder {count : Nat} (addressable : count ≤ UInt64.size) (index : Nat)
    {rest : List Char} (apart : StaysApart count rest) :
    labelPieces count (placeholderText index ++ rest) =
      (if index < count then [.argument index] else (placeholderText index).map .literal) ++
        labelPieces count rest := by
  rw [labelPieces_placeholderText]
  by_cases named : index < count
  · have small : index < UInt64.size := Nat.lt_of_lt_of_le named addressable
    simp [named, small]
  · -- The closing brace comes last, and the rest does not pair with it.
    have closing : labelPieces count ('}' :: rest) = .literal '}' :: labelPieces count rest := apart
    simp [named, closing, placeholderText]

/-- Literal pieces give back the text that they were made of. -/
theorem fill_literals (arguments : List String) (text : List Char) :
    (text.map LabelPiece.literal).flatMap (·.fill arguments) = text := by
  simp [List.flatMap_map, LabelPiece.fill]

/-- The pieces of a template are filled with what its parts stand for. -/
theorem fill_parts {arguments : List String} (addressable : arguments.length ≤ UInt64.size)
    (parts : List TemplatePart) :
    (labelPieces arguments.length (parts.flatMap TemplatePart.encode)).flatMap
        (·.fill arguments) =
      parts.flatMap (·.expand arguments) := by
  induction parts with
  | nil => simp
  | cons part rest ih =>
    rw [List.flatMap_cons, List.flatMap_cons, ← ih]
    cases part with
    | literal text =>
      rw [TemplatePart.encode, labelPieces_literal, List.flatMap_append, fill_literals,
        TemplatePart.expand]
    | placeholder index =>
      rw [TemplatePart.encode, labelPieces_placeholder addressable index (.parts _ rest),
        List.flatMap_append, TemplatePart.expand]
      congr 1
      -- A placeholder behind the last argument is read as its own text, so it is put out as it is.
      split
      · rename_i named
        simp [LabelPiece.fill, named]
      · rename_i missing
        rw [fill_literals, List.getElem?_eq_none (by omega)]

/-- A template is filled part by part: each literal stays as it is, each placeholder becomes its
argument, and one that has no argument is left as written. The arguments are never too many for a
word to count, which is how an index is read. -/
theorem fillTemplate_encodeTemplate (parts : List TemplatePart) {arguments : List String}
    (addressable : arguments.length ≤ UInt64.size) :
    fillTemplate (encodeTemplate parts) arguments = expandParts arguments parts := by
  rw [fillTemplate_eq, encodeTemplate, String.toList_ofList, fill_parts addressable, expandParts]

/-- Braces that meet at the ends of parts, some around an argument and some behind a missing one. -/
theorem fillTemplate_encodeTemplate_braces :
    ["x"].length ≤ UInt64.size ∧
      fillTemplate "\x7b\x7b\x7b0\x7d\x7d\x7d\x7b7\x7d\x7d\x7d" ["x"] =
        "\x7bx\x7d\x7b7\x7d\x7d" := by
  have small : ["x"].length ≤ UInt64.size := by decide
  have filled := fillTemplate_encodeTemplate
    [.literal "\x7b", .placeholder 0, .literal "\x7d", .placeholder 7, .literal "\x7d"] small
  have written : encodeTemplate
      [.literal "\x7b", .placeholder 0, .literal "\x7d", .placeholder 7, .literal "\x7d"] =
        "\x7b\x7b\x7b0\x7d\x7d\x7d\x7b7\x7d\x7d\x7d" := by decide +kernel
  have meant : expandParts ["x"]
      [.literal "\x7b", .placeholder 0, .literal "\x7d", .placeholder 7, .literal "\x7d"] =
        "\x7bx\x7d\x7b7\x7d\x7d" := by decide +kernel
  rw [written, meant] at filled
  exact ⟨small, filled⟩

end BreakpointGlyph
