import BreakpointGlyph.Proofs.Signature.Unclosed
import BreakpointGlyph.Signature.Counter

/-! Type names are wholly cut: a counter of open brackets that must not go below zero finds the same
parts, and does not go below zero. -/

namespace BreakpointGlyph

/-- The inside of a list closes the lists that were open in front of it and all that it opens, and
none of its brackets closes the list itself. -/
theorem cutAtClose_inside {depth : Nat} {text inside after : List Char}
    (cut : cutAtClose depth text = some (inside, after)) :
    inside.count '<' + depth = inside.count '>' ∧ cutAtClose depth inside = none := by
  induction text generalizing depth inside with
  | nil => simp [cutAtClose] at cut
  | cons c rest ih =>
    rw [cutAtClose_cons] at cut
    split at cut
    · -- The search stops at once, so there is nothing inside.
      rename_i stops
      obtain ⟨rfl, -⟩ : [] = inside ∧ rest = after := by simpa using cut
      simp [stops.2, cutAtClose]
    · rename_i goesOn
      obtain ⟨⟨front, back⟩, inner, shape⟩ := Option.map_eq_some_iff.mp cut
      simp only [Prod.map_apply, id_eq, Prod.mk.injEq] at shape
      obtain ⟨rfl, rfl⟩ := shape
      obtain ⟨level, uncut⟩ := ih inner
      refine ⟨?_, by simp only [cutAtClose_cons, if_neg goesOn, uncut, Option.map_none]⟩
      -- A bracket that the search has passed changes the depth as it changes the counts.
      by_cases opens : c = '<'
      · subst opens
        simp only [if_pos] at level
        simp only [List.count_cons_self, List.count_cons_of_ne (by decide : '<' ≠ '>')]
        omega
      · by_cases closes : c = '>'
        · subst closes
          have deep : 0 < depth := Nat.pos_of_ne_zero fun outermost => goesOn ⟨rfl, outermost⟩
          simp only [if_pos, if_neg opens] at level
          simp only [List.count_cons_self, List.count_cons_of_ne (by decide : '>' ≠ '<')]
          omega
        · simp only [if_neg opens, if_neg closes] at level
          simpa [List.count_cons_of_ne opens, List.count_cons_of_ne closes] using level

/-- The inside of a list that is closed is balanced. -/
theorem balancedAngles_of_cut {text inside after : List Char}
    (cut : cutAtClose 0 text = some (inside, after)) : BalancedAngles inside := by
  obtain ⟨level, uncut⟩ := cutAtClose_inside cut
  exact ⟨level, neverClosed_iff.mpr uncut⟩

/-- A counter that starts inside of a list finds where the list is closed, behind what it has
passed by then. -/
theorem searchClosing_eq (depth : Nat) (first : Char) (passed text : List Char) :
    searchClosing (depth + 1) (first :: passed) text =
      match cutAtClose depth text with
      | some (inside, after) => .closed (passed ++ inside) after
      | none => .unclosed := by
  -- The counter stays one above the number of further lists that are open.
  induction text generalizing depth passed with
  | nil => rfl
  | cons c rest ih =>
    rw [cutAtClose_cons]
    by_cases opens : c = '<'
    · subst opens
      simp only [searchClosing, if_pos, List.cons_append, ih]
      cases cutAtClose (depth + 1) rest <;> simp
    · by_cases closes : c = '>'
      · subst closes
        cases depth with
        | zero => simp [searchClosing]
        | succ depth =>
          simp only [searchClosing, if_neg opens, if_pos, List.cons_append, ih,
            Nat.add_sub_cancel]
          cases cutAtClose depth rest <;> simp
      · simp only [searchClosing, if_neg opens, if_neg closes, List.cons_append, ih]
        cases cutAtClose depth rest <;> simp [closes]

/-- Where the first mark of a name opens a list, the counter finds the parts of the name. -/
theorem searchClosing_splitTypeName {element rest : List Char}
    (plain : ∀ c ∈ element, endsElement c = false) :
    searchClosing 0 [] ('<' :: rest) = (splitTypeName (element ++ '<' :: rest)).search := by
  obtain ⟨-, dropped⟩ := @span_element _ ('<' :: rest) plain (by simp [endsElement])
  -- The mark itself is counted first.
  have started : searchClosing 0 [] ('<' :: rest) = searchClosing 1 ['<'] rest := rfl
  rw [started, searchClosing_eq, splitTypeName, dropped]
  cases cut : cutAtClose 0 rest <;> simp [TypeNameParts.search, cut]

/-- A name without marks is not cut. -/
theorem splitTypeName_plain {name : List Char} (plain : ∀ c ∈ name, endsElement c = false) :
    splitTypeName name = ⟨name, none, []⟩ := by
  have cut : CutName ⟨name, none, []⟩ := .bare plain (by simp)
  simpa [TypeNameParts.text] using cut.again

/-- The parts that a name is cut into again are its whole, and tell why it is cut there. -/
theorem CutName.whollyCut {parts : TypeNameParts} (cut : CutName parts) :
    WhollyCut parts.text parts where
  whole := rfl
  balanced := by
    intro inside given
    cases cut with
    | bare _ _ => simp at given
    | generic _ closed => exact Option.some.inj given ▸ balancedAngles_of_cut closed
    | unclosed _ _ => simp at given
  plain := by
    intro something
    cases cut with
    | bare plain _ => exact plain
    | generic plain _ => exact plain
    | unclosed _ _ => simp at something
  uncut := by
    constructor
    · rintro ⟨bare, ended⟩
      cases cut with
      | bare plain _ =>
        subst ended
        exact .inl (by simpa [TypeNameParts.text] using plain)
      | generic _ _ => simp at bare
      | unclosed plain uncut =>
        refine .inr ⟨_, _, ?_, plain, neverClosed_iff.mpr uncut⟩
        simp [TypeNameParts.text]
    · -- In both cases nothing is cut off when the name is cut again.
      intro whole
      have again : splitTypeName parts.text = ⟨parts.text, none, []⟩ :=
        whole.elim splitTypeName_plain splitTypeName_unclosed
      rw [cut.again] at again
      exact ⟨congrArg TypeNameParts.arguments again, congrArg TypeNameParts.suffix again⟩
  counted := by
    intro element rest same plain
    rw [searchClosing_splitTypeName plain, ← same, cut.again]

/-- Every name is wholly cut, whatever its brackets are. -/
theorem whollyCut_splitTypeName (name : List Char) : WhollyCut name (splitTypeName name) := by
  have cut := (cutName_splitTypeName name).whollyCut
  rwa [splitTypeName_text] at cut

end BreakpointGlyph
