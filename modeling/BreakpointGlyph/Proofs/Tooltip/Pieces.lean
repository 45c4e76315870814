import BreakpointGlyph.Tooltip.Pieces

/-! A template that is filled in one pass is filled piece by piece. -/

namespace BreakpointGlyph

/-- A placeholder is replaced if it names one of the arguments, whatever these are. -/
theorem substitution?_eq (arguments : List String) (text : List Char) :
    substitution? arguments text =
      (placeholder? arguments.length text).map fun (index, after) =>
        (arguments[index]?.getD "", after) := by
  unfold substitution? placeholder?
  cases placeholderNumber? text with
  | none => rfl
  | some read =>
    obtain ⟨index, after⟩ := read
    by_cases named : index < arguments.length <;> simp [Option.filter_some, named]

/-- A text that is not another one with a character in front does not start with that character. -/
theorem head?_ne_of_unpaired {c : Char} {text : List Char}
    (unpaired : ∀ rest, text = c :: rest → False) : text.head? ≠ some c := by
  intro first
  obtain ⟨rest, rfl⟩ := List.head?_eq_some_iff.mp first
  exact unpaired rest rfl

/-- One pass over a template writes what its pieces become. -/
theorem fillFrom_eq (arguments : List String) (text : List Char) :
    fillFrom arguments text = (labelPieces arguments.length text).flatMap (·.fill arguments) := by
  -- Both go over the text in the same steps, a case for each of them.
  fun_induction fillFrom arguments text with
  | case1 => simp
  | case2 rest ih => simp [ih, LabelPiece.fill]
  | case3 rest ih => simp [ih, LabelPiece.fill]
  | case4 rest unpaired argument after found shorter ih =>
    -- The number in the placeholder is the place of the argument that is written.
    rw [substitution?_eq, Option.map_eq_some_iff] at found
    obtain ⟨⟨index, behind⟩, read, same⟩ := found
    simp only [Prod.mk.injEq] at same
    obtain ⟨rfl, rfl⟩ := same
    rw [labelPieces_open (head?_ne_of_unpaired unpaired), read, ih]
    rfl
  | case5 rest unpaired found ih =>
    rw [substitution?_eq, Option.map_eq_none_iff] at found
    rw [labelPieces_open (head?_ne_of_unpaired unpaired), found, ih]
    rfl
  | case6 c rest _ paired opens ih =>
    -- What is left are closing braces without a second one, and all other characters.
    by_cases closes : c = '}'
    · subst closes
      rw [labelPieces_close (head?_ne_of_unpaired fun other => paired other rfl), ih]
      rfl
    · rw [labelPieces_plain opens closes, ih]
      rfl

/-- A template is filled piece by piece. -/
theorem fillTemplate_eq (template : String) (arguments : List String) :
    fillTemplate template arguments =
      String.ofList ((labelPieces arguments.length template.toList).flatMap (·.fill arguments)) := by
  rw [fillTemplate, fillFrom_eq]

/-- The pieces of a template have places for the arguments that it is filled with, and no others. -/
theorem lt_of_mem_labelPieces {count index : Nat} {text : List Char}
    (member : .argument index ∈ labelPieces count text) : index < count := by
  -- Only where a placeholder is read does a piece come up that is no literal.
  fun_induction labelPieces count text with
  | case1 => simp at member
  | case2 rest ih => simp_all
  | case3 rest ih => simp_all
  | case4 rest unpaired place after found shorter ih =>
    rcases List.mem_cons.mp member with same | member
    · injection same with same
      exact same ▸ (placeholder?_eq_some_iff.mp found).2
    · exact ih member
  | case5 rest unpaired found ih => simp_all
  | case6 c rest _ _ _ ih => simp_all

end BreakpointGlyph
