import BreakpointGlyph.Signature.TypeName

/-! The parts that a type name is cut into tell where it is cut: put together, they are cut again as
they were. -/

namespace BreakpointGlyph

/-- The search for the end of an element passes over the element, and stops right behind it. -/
theorem span_element {element rest : List Char} (plain : ∀ c ∈ element, endsElement c = false)
    (ended : ∀ c ∈ rest.head?, endsElement c = true) :
    (element ++ rest).takeWhile (fun c => !endsElement c) = element ∧
      (element ++ rest).dropWhile (fun c => !endsElement c) = rest := by
  have passed : ∀ c ∈ element, (!endsElement c) = true := by simpa using plain
  rw [List.takeWhile_append_of_pos passed, List.dropWhile_append_of_pos passed]
  -- The first character behind the element is a mark, if there is one.
  cases rest with
  | nil => simp
  | cons c rest => simp [ended c (by simp)]

/-- The parts of a name that the name is cut into again: the element is what stands in front of the
first mark; if the mark opens a list, the list is closed by its own bracket or never. -/
inductive CutName : TypeNameParts → Prop where
  | bare {element suffix : List Char} (plain : ∀ c ∈ element, endsElement c = false)
      (ended : ∀ c ∈ suffix.head?, endsElement c = true ∧ c ≠ '<') : CutName ⟨element, none, suffix⟩
  | generic {element inside suffix : List Char} (plain : ∀ c ∈ element, endsElement c = false)
      (closed : cutAtClose 0 (inside ++ '>' :: suffix) = some (inside, suffix)) :
      CutName ⟨element, some inside, suffix⟩
  | unclosed {element rest : List Char} (plain : ∀ c ∈ element, endsElement c = false)
      (uncut : cutAtClose 0 rest = none) : CutName ⟨element ++ '<' :: rest, none, []⟩

/-- Every name is cut into such parts. -/
theorem cutName_splitTypeName (name : List Char) : CutName (splitTypeName name) := by
  have whole := List.takeWhile_append_dropWhile (p := fun c => !endsElement c) (l := name)
  have plain : ∀ c ∈ name.takeWhile (fun c => !endsElement c), endsElement c = false := by
    intro c member
    simpa using List.all_eq_true.mp List.all_takeWhile c member
  unfold splitTypeName
  split
  · rename_i rest opened
    split
    · -- What is left behind the opening bracket is the list, its closing bracket and the suffix.
      rename_i inside after cut
      exact .generic plain (eq_of_cutAtClose cut ▸ cut)
    · -- No part of the name is cut off, so all of it is the element.
      rename_i uncut
      rw [opened] at whole
      exact whole ▸ .unclosed plain uncut
  · rename_i unopened
    refine .bare plain fun c found => ⟨?_, ?_⟩
    · -- What is left starts with the mark that the search has stopped at.
      have stopped := List.head?_dropWhile_not (fun c => !endsElement c) name
      rw [found] at stopped
      simpa using stopped
    · -- The mark is none that opens a list, or else this would be one of the cases above.
      rintro rfl
      obtain ⟨rest, opened⟩ := List.head?_eq_some_iff.mp found
      exact unopened rest opened

/-- Such parts are cut from the name that they make up. -/
theorem CutName.again {parts : TypeNameParts} (cut : CutName parts) :
    splitTypeName parts.text = parts := by
  -- In each case the search for the end of the element stops at the mark behind it.
  cases cut with
  | @bare element suffix plain ended =>
    obtain ⟨taken, dropped⟩ := span_element plain fun c found => (ended c found).1
    simp only [TypeNameParts.text, List.append_nil, splitTypeName, taken, dropped]
    -- What is behind the element opens no list.
    split
    · exact absurd rfl (ended '<' (by simp)).2
    · rfl
  | @generic element inside suffix plain closed =>
    have shape : TypeNameParts.text ⟨element, some inside, suffix⟩ =
        element ++ '<' :: (inside ++ '>' :: suffix) := by
      simp [TypeNameParts.text]
    obtain ⟨taken, dropped⟩ := @span_element _ ('<' :: (inside ++ '>' :: suffix)) plain
      (by simp [endsElement])
    simp only [shape, splitTypeName, taken, dropped, closed]
  | @unclosed element rest plain uncut =>
    obtain ⟨taken, dropped⟩ := @span_element _ ('<' :: rest) plain (by simp [endsElement])
    simp only [TypeNameParts.text, List.append_nil, splitTypeName, dropped, uncut]

end BreakpointGlyph
