import BreakpointGlyph.Proofs.Signature.Brackets

/-! Texts with the same brackets: both counters of brackets find the same places in them, where a
list is closed and where it is cut into its arguments. -/

namespace BreakpointGlyph

/-- A second text that has all brackets of a first one in their order, and at the places between
them no commas but those of the first; anything else may be left out or put in. -/
inductive KeepsBrackets : List Char → List Char → Prop where
  | empty : KeepsBrackets [] []
  | keep (c : Char) {text other : List Char} :
      KeepsBrackets text other → KeepsBrackets (c :: text) (c :: other)
  | leave {c : Char} {text other : List Char} (unbracketed : isBracket c = false) :
      KeepsBrackets text other → KeepsBrackets (c :: text) other
  | put {c : Char} {text other : List Char} (unbracketed : isBracket c = false) (plain : c ≠ ',') :
      KeepsBrackets text other → KeepsBrackets text (c :: other)

/-- A text has its own brackets and commas. -/
theorem KeepsBrackets.refl (text : List Char) : KeepsBrackets text text := by
  induction text with
  | nil => exact .empty
  | cons c rest ih => exact .keep c ih

/-- Brackets are kept in two texts side by side if they are in each. -/
theorem KeepsBrackets.append {front other back otherBack : List Char}
    (first : KeepsBrackets front other) (second : KeepsBrackets back otherBack) :
    KeepsBrackets (front ++ back) (other ++ otherBack) := by
  induction first with
  | empty => exact second
  | keep c _ ih => exact .keep c ih
  | leave unbracketed _ ih => exact .leave unbracketed ih
  | put unbracketed plain _ ih => exact .put unbracketed plain ih

/-- A text without brackets may give way to one without brackets and commas. -/
theorem KeepsBrackets.of_plain {text other : List Char}
    (unbracketed : ∀ c ∈ text, isBracket c = false)
    (plain : ∀ c ∈ other, isBracket c = false ∧ c ≠ ',') : KeepsBrackets text other := by
  induction text with
  | cons c rest ih =>
    have head := unbracketed c (by simp)
    exact .leave head (ih fun next member => unbracketed next (by simp [member]))
  | nil =>
    -- The first text is left out as a whole, so that the second one is put in.
    induction other with
    | nil => exact .empty
    | cons c rest ih =>
      obtain ⟨visible, noComma⟩ := plain c (by simp)
      exact .put visible noComma (ih fun next member => plain next (by simp [member]))

/-- The white space around a text may be left out. -/
theorem KeepsBrackets.of_trim {text other : List Char} (kept : KeepsBrackets (trim text) other) :
    KeepsBrackets text other := by
  obtain ⟨before, after, whole, front, back⟩ := exists_trim text
  have first : KeepsBrackets before [] :=
    .of_plain (fun c member => isBracket_blank (front c member)) (by simp)
  have last : KeepsBrackets after [] :=
    .of_plain (fun c member => isBracket_blank (back c member)) (by simp)
  rw [whole]
  simpa using (first.append kept).append last

/-- As many brackets are open behind one of two texts as behind the other. -/
theorem KeepsBrackets.depth_eq {text other : List Char} (kept : KeepsBrackets text other)
    (depth : Nat) : depthAfter depth other = depthAfter depth text := by
  induction kept generalizing depth with
  | empty => rfl
  | keep c _ ih => exact ih (bracketDepth depth c)
  | leave unbracketed _ ih =>
    have level := bracketDepth_unbracketed unbracketed depth
    simpa [depthAfter, level] using ih depth
  | put unbracketed _ _ ih =>
    have level := bracketDepth_unbracketed unbracketed depth
    simpa [depthAfter, level] using ih depth

/-- Commas that are enclosed stay so where brackets are kept. -/
theorem KeepsBrackets.enclosed {text other : List Char} (kept : KeepsBrackets text other)
    {depth : Nat} (enclosed : CommasEnclosed depth text) : CommasEnclosed depth other := by
  induction kept generalizing depth with
  | empty => trivial
  | keep c _ ih => exact ⟨enclosed.1, ih enclosed.2⟩
  | leave unbracketed _ ih =>
    -- Behind the character that is left out as many brackets are open as in front of it.
    have tail := enclosed.2
    rw [bracketDepth_unbracketed unbracketed] at tail
    exact ih tail
  | put unbracketed plain _ ih =>
    refine ⟨fun comma => absurd comma plain, ?_⟩
    rw [bracketDepth_unbracketed unbracketed]
    exact ih enclosed

/-- A list that is closed by the bracket behind it is so if it is written with the same brackets. -/
theorem KeepsBrackets.closed {text other : List Char} (kept : KeepsBrackets text other)
    {depth : Nat} {after : List Char}
    (cut : cutAtClose depth (text ++ '>' :: after) = some (text, after)) :
    cutAtClose depth (other ++ '>' :: after) = some (other, after) := by
  -- A character in front of a cut belongs to what is cut off.
  have further : ∀ {c : Char} {text : List Char} {found : Option (List Char × List Char)},
      found.map (Prod.map (c :: ·) id) = some (c :: text, after) ↔ found = some (text, after) := by
    intro c text found
    cases found <;> simp [Prod.ext_iff]
  induction kept generalizing depth with
  | empty => exact cut
  | keep c _ ih =>
    rw [List.cons_append, cutAtClose_cons] at cut ⊢
    split at cut
    · -- The search does not stop here, where a character of the list is left.
      simp at cut
    · rename_i passed
      rw [if_neg passed]
      exact further.mpr (ih (further.mp cut))
  | leave unbracketed _ ih =>
    rw [List.cons_append, cutAtClose_unbracketed unbracketed] at cut
    exact ih (further.mp cut)
  | put unbracketed _ _ ih =>
    rw [List.cons_append, cutAtClose_unbracketed unbracketed]
    exact further.mpr (ih cut)

/-! Lists that are printed -/

/-- Parts stay apart where their brackets are kept. -/
theorem Separable.map {parts : List (List Char)} (separable : Separable parts)
    {print : List Char → List Char} (kept : ∀ part ∈ parts, KeepsBrackets part (print part)) :
    Separable (parts.map print) := by
  induction separable with
  | none => exact .none
  | last enclosed => exact .last ((kept _ (by simp)).enclosed enclosed)
  | more enclosed closed _ ih =>
    have first := kept _ List.mem_cons_self
    -- The first part closes what it opens, as it has done before.
    exact .more (first.enclosed enclosed) ((first.depth_eq 0).trans closed)
      (ih fun part member => kept part (by simp [member]))

/-- The arguments of a list are separable. -/
theorem separable_genericArguments (list : List Char) : Separable (genericArguments list) := by
  -- Trimming keeps the brackets of a part, and dropping empty parts leaves the others as they are.
  have trimmed : Separable ((splitAtCommas 0 list).map trim) :=
    (separable_splitAtCommas list).map fun part _ => .of_trim (.refl (trim part))
  exact trimmed.filter _

/-- The arguments of a list are not empty, and have no white space at their ends. -/
theorem genericArguments_visible {list argument : List Char}
    (member : argument ∈ genericArguments list) : argument ≠ [] ∧ VisibleEnds argument := by
  obtain ⟨inside, nonempty⟩ := List.mem_filter.mp member
  obtain ⟨part, _, rfl⟩ := List.mem_map.mp inside
  exact ⟨by simpa using nonempty, visibleEnds_trim part⟩

/-- Parts between commas keep their brackets if those that are not blank do: a blank part goes with
the comma behind it, if there is one. -/
theorem KeepsBrackets.intercalate {print : List Char → List Char} {parts : List (List Char)}
    (kept : ∀ argument ∈ (parts.map trim).filter (· ≠ []),
      KeepsBrackets argument (print argument)) :
    KeepsBrackets ([','].intercalate parts)
      ([',', ' '].intercalate (((parts.map trim).filter (· ≠ [])).map print)) := by
  have comma : isBracket ',' = false := by decide
  have space : isBracket ' ' = false ∧ ' ' ≠ ',' := by decide
  induction parts with
  | nil => exact .empty
  | cons part rest ih =>
    by_cases blank : trim part = []
    · -- Nothing is printed of the part, nor of the comma behind it.
      have gone : KeepsBrackets part [] := .of_trim (blank ▸ .empty)
      have shape : ((part :: rest).map trim).filter (· ≠ []) =
          (rest.map trim).filter (· ≠ []) := by
        simp [blank]
      rw [shape] at kept ⊢
      cases rest with
      | nil => simpa using gone
      | cons second others =>
        rw [List.intercalate_cons_cons, List.append_assoc]
        exact gone.append (.leave comma (ih kept))
    · have shape : ((part :: rest).map trim).filter (· ≠ []) =
          trim part :: (rest.map trim).filter (· ≠ []) := by
        simp [blank]
      rw [shape] at kept ⊢
      have first : KeepsBrackets part (print (trim part)) := .of_trim (kept _ (by simp))
      have later := ih fun argument member => kept argument (List.mem_cons_of_mem _ member)
      cases rest with
      | nil => simpa using first
      | cons second others =>
        rw [List.intercalate_cons_cons, List.append_assoc]
        -- The comma is printed with a space if anything is printed of the parts behind it.
        cases printed : ((second :: others).map trim).filter (· ≠ []) with
        | nil =>
          rw [printed] at later
          simpa using first.append (.leave comma later)
        | cons next more =>
          rw [printed] at later
          rw [List.map_cons, List.map_cons, List.intercalate_cons_cons, List.append_assoc]
          exact first.append (.keep ',' (.put space.1 space.2 later))

/-- A list keeps its brackets when its arguments are printed, if these do. -/
theorem KeepsBrackets.arguments {print : List Char → List Char} {list : List Char}
    (kept : ∀ argument ∈ genericArguments list, KeepsBrackets argument (print argument)) :
    KeepsBrackets list ([',', ' '].intercalate ((genericArguments list).map print)) := by
  -- The list is what its parts make up with commas between them.
  have joined := KeepsBrackets.intercalate kept
  rwa [intercalate_splitAtCommas] at joined

/-- The arguments of a list that is printed are what is printed of its arguments, if these keep
their brackets and remain visible. -/
theorem genericArguments_printed {print : List Char → List Char} {list : List Char}
    (kept : ∀ argument ∈ genericArguments list, KeepsBrackets argument (print argument))
    (visible : ∀ argument ∈ genericArguments list,
      print argument ≠ [] ∧ VisibleEnds (print argument)) :
    genericArguments ([',', ' '].intercalate ((genericArguments list).map print)) =
      (genericArguments list).map print := by
  -- Where the arguments can be told apart, so can be what is printed of them.
  have space : isBlank ' ' = true := by decide
  have blank : ∀ c ∈ [' '], isBlank c = true := by simpa using space
  refine genericArguments_separable blank ((separable_genericArguments list).map kept) ?_
  simpa using visible

end BreakpointGlyph
