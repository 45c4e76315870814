import BreakpointGlyph.Proofs.Signature.TypeText

/-! Names with a list that is never closed are element names as a whole, and printed as such. -/

namespace BreakpointGlyph

/-- A list is not cut exactly if its closing brackets never outnumber the opening ones in it and the
lists that are open around it. -/
theorem cutAtClose_eq_none_iff {depth : Nat} {text : List Char} :
    cutAtClose depth text = none ↔
      ∀ front, front <+: text → front.count '>' ≤ front.count '<' + depth := by
  -- The empty start says nothing, and any other one has the first character of the text.
  have starts : ∀ {c : Char} {rest : List Char} {counted : List Char → Prop}, counted [] →
      ((∀ front, front <+: c :: rest → counted front) ↔
        ∀ front, front <+: rest → counted (c :: front)) := by
    intro c rest counted empty
    simp only [List.prefix_cons_iff]
    constructor
    · exact fun all front start => all _ (.inr ⟨front, rfl, start⟩)
    · rintro all front (rfl | ⟨later, rfl, start⟩)
      · exact empty
      · exact all later start
  fun_induction cutAtClose depth text with
  | case1 depth => simp
  | case2 depth rest ih =>
    -- One more list is open from here on.
    refine Option.map_eq_none_iff.trans (ih.trans (Iff.trans ?_ (starts (by simp)).symm))
    simp [Nat.add_right_comm, Nat.add_assoc]
  | case3 rest =>
    -- The bracket alone is a start in which nothing has been opened.
    refine ⟨by simp, fun bounded => ?_⟩
    simpa using bounded ['>'] (by simp)
  | case4 rest depth ih =>
    -- One of the open lists is closed.
    refine Option.map_eq_none_iff.trans (ih.trans (Iff.trans ?_ (starts (by simp)).symm))
    simp [← Nat.add_assoc]
  | case5 depth c rest opens closes ih =>
    refine Option.map_eq_none_iff.trans (ih.trans (Iff.trans ?_ (starts (by simp)).symm))
    have neither : c ≠ '<' ∧ c ≠ '>' := ⟨opens, closes⟩
    simp [neither]

/-- A list is never closed exactly if the search for its closing bracket fails. -/
theorem neverClosed_iff {text : List Char} : NeverClosed text ↔ cutAtClose 0 text = none :=
  (@cutAtClose_eq_none_iff 0 text).symm

instance (text : List Char) : Decidable (NeverClosed text) :=
  decidable_of_iff _ neverClosed_iff.symm

/-- An unclosed name stays one when it is trimmed. -/
theorem UnclosedName.trim {name : List Char} (unclosed : UnclosedName name) :
    UnclosedName (trim name) := by
  obtain ⟨element, rest, rfl, plain, unending⟩ := unclosed
  refine ⟨_, _, trim_around (by decide) element rest, fun c member => ?_, fun front start => ?_⟩
  · exact plain c ((List.dropWhile_suffix isBlank).mem member)
  · -- What is left of the list is a start of it.
    have kept : (rest.reverse.dropWhile isBlank).reverse <+: rest := by
      simpa using List.reverse_prefix.mpr (List.dropWhile_suffix isBlank (l := rest.reverse))
    exact unending front (start.trans kept)

/-- An unclosed name is not cut. -/
theorem splitTypeName_unclosed {name : List Char} (unclosed : UnclosedName name) :
    splitTypeName name = ⟨name, none, []⟩ := by
  obtain ⟨element, rest, rfl, plain, unending⟩ := unclosed
  have cut := CutName.unclosed plain (neverClosed_iff.mp unending)
  simpa [TypeNameParts.text] using cut.again

/-- No keyword is known for a name with an opening bracket. -/
theorem typeKeyword?_bracket {name : List Char} (bracket : '<' ∈ name) :
    typeKeyword? name = none := by
  have plain : ∀ entry ∈ typeKeywords, '<' ∉ ("System." ++ entry.1).toList := by decide +kernel
  rw [typeKeyword?, Option.map_eq_none_iff, List.find?_eq_none]
  intro entry known same
  rw [beq_iff_eq] at same
  exact plain entry known (same ▸ bracket)

/-- An unclosed name is printed as an element name, trimmed. -/
theorem typeSegments_unclosed {name : List Char} (flags : SignatureFlags)
    (unclosed : UnclosedName name) :
    typeSegments flags name = elementSegments flags (trim name) := by
  have trimmed := unclosed.trim
  have bracket : '<' ∈ trim name := by
    obtain ⟨element, rest, shape, _⟩ := trimmed
    simp [shape]
  have unknown : shownKeyword? flags (trim name) = none := by
    simp [shownKeyword?, typeKeyword?_bracket bracket]
  rw [typeSegments_eq]
  simp [splitTypeName_unclosed trimmed, unknown, suffixSegments]

/-- A name with a list that is never closed is shown up to the first backquote behind its last dot,
and what is in front of that dot only where namespaces are shown. So it is shown as written, without
the white space around it, exactly if neither of these takes anything away. -/
theorem typeSegments_unclosed_as_written {flags : SignatureFlags} {name : List Char}
    (unclosed : UnclosedName name) :
    (∃ front, trim name = front ++ lastDotted (trim name) ∧
        (plainText (typeSegments flags name)).toList =
          (if flags.namespaces then front else []) ++ stripArity (lastDotted (trim name))) ∧
      ((plainText (typeSegments flags name)).toList = trim name ↔
        (flags.namespaces = true ∨ '.' ∉ trim name) ∧ '\x60' ∉ lastDotted (trim name)) := by
  obtain ⟨front, joined, undotted, shown⟩ := elementSegments_front flags (trim name)
  rw [typeSegments_unclosed flags unclosed]
  refine ⟨⟨front, joined, shown⟩, ?_⟩
  rw [shown, ← undotted, ← stripArity_eq_self_iff]
  generalize lastDotted (trim name) = last at joined ⊢
  rw [joined]
  cases flags.namespaces with
  | true => simp
  | false =>
    -- What is left of the last part is no longer than that part, so there is nothing in front of it.
    simp only [Bool.false_eq_true, if_false, List.nil_append, false_or]
    constructor
    · intro same
      have shorter := (List.takeWhile_prefix (· != '\x60') (l := last)).length_le
      have lengths := congrArg List.length same
      rw [stripArity, List.length_append] at lengths
      have empty : front = [] := List.eq_nil_of_length_eq_zero (by omega)
      exact ⟨empty, by simpa [empty] using same⟩
    · rintro ⟨rfl, whole⟩
      simpa using whole

/-- A list that is open around a closed one is shown as written, with its dots and commas. -/
theorem typeSegments_unclosed_as_written_nested :
    let name := "\tA.B<C<D.E>, F ".toList
    UnclosedName name ∧
      (plainText (typeSegments .all name)).toList = "A.B<C<D.E>, F".toList := by
  have unclosed : UnclosedName "\tA.B<C<D.E>, F ".toList :=
    ⟨"\tA.B".toList, "C<D.E>, F ".toList, by decide, by simp [endsElement], by decide⟩
  obtain ⟨_, written⟩ := @typeSegments_unclosed_as_written .all _ unclosed
  exact ⟨unclosed, (written.mpr ⟨.inl rfl, by decide⟩).trans (by decide)⟩

/-- Of a list behind an arity nothing is shown. -/
theorem typeSegments_unclosed_arity :
    let name := "List`1<T".toList
    UnclosedName name ∧ (plainText (typeSegments .all name)).toList = "List".toList ∧
      (plainText (typeSegments .all name)).toList ≠ trim name := by
  have unclosed : UnclosedName "List`1<T".toList :=
    ⟨"List`1".toList, "T".toList, by decide, by simp [endsElement], by decide⟩
  have shown : (plainText (typeSegments .all "List`1<T".toList)).toList = "List".toList := by
    rw [typeSegments_unclosed .all unclosed]
    decide +kernel
  refine ⟨unclosed, shown, ?_⟩
  rw [shown]
  decide

end BreakpointGlyph
