/-! Texts that are joined by a separator. -/

namespace BreakpointGlyph

/-- A character or byte that is not in a separator is in separated texts if it is in one of them. -/
theorem mem_intercalate_iff {α : Type} {c : α} {separator : List α} (absent : c ∉ separator)
    {texts : List (List α)} : c ∈ separator.intercalate texts ↔ ∃ text ∈ texts, c ∈ text := by
  -- The induction is on the texts, since each brings its own separator along.
  induction texts with
  | nil => simp
  | cons first rest ih =>
    -- There is a separator behind the first text if there is a second one.
    cases rest with
    | nil => simp
    | cons second others =>
      rw [List.intercalate_cons_cons, List.append_assoc, List.mem_append, List.mem_append, ih]
      simp [absent]

/-- Each of some texts is a stretch of what they make up with a separator. -/
theorem infix_intercalate {text : List Char} {texts : List (List Char)} (member : text ∈ texts)
    (separator : List Char) : text <:+: separator.intercalate texts := by
  induction texts with
  | nil => simp at member
  | cons first rest ih =>
    cases rest with
    | nil => simp_all
    | cons second others =>
      rw [List.intercalate_cons_cons]
      rcases List.mem_cons.mp member with rfl | later
      · rw [List.append_assoc]
        exact (List.prefix_append text _).isInfix
      · exact (ih later).trans (List.suffix_append _ _).isInfix

end BreakpointGlyph
