import BreakpointGlyph.Proofs.Signature.Kept
import BreakpointGlyph.Proofs.Signature.KeptBrackets
import BreakpointGlyph.Proofs.Signature.Keywords
import BreakpointGlyph.Proofs.Signature.Unclosed

/-! What is printed of a type name is printed as it stands, since its brackets are kept. -/

namespace BreakpointGlyph

/-! Parts that are printed -/

/-- The name of a type with a keyword has no brackets. The keyword itself is a name without any
marks, and has no keyword of its own. -/
theorem typeKeywords_plain : ∀ entry ∈ typeKeywords,
    (∀ c ∈ ("System." ++ entry.1).toList, c ∉ elementStops) ∧
      (∀ c ∈ entry.2.toList, c ∉ elementStops ∧ isBlank c = false ∧ c ≠ '\x60') ∧
        entry.2.toList ≠ [] ∧ typeKeyword? entry.2.toList = none := by
  -- The characters of each text are checked one by one.
  have table : ∀ entry ∈ typeKeywords,
      ("System." ++ entry.1).toList.all (fun c => !elementStops.contains c) ∧
        entry.2.toList.all (fun c => !elementStops.contains c && (!isBlank c && c != '\x60')) ∧
          entry.2.toList ≠ [] ∧ typeKeyword? entry.2.toList = none := by
    decide +kernel
  intro entry known
  obtain ⟨system, keyword, nonempty, unknown⟩ := table entry known
  exact ⟨by simpa using system, by simpa using keyword, nonempty, unknown⟩

/-- An element is printed as it is, or by the keyword that it has. -/
theorem printedElement_cases (flags : SignatureFlags) (parts : TypeNameParts) :
    printedElement flags parts = parts.element ∨
      ∃ entry ∈ typeKeywords, parts.arguments = none ∧
        parts.element = ("System." ++ entry.1).toList ∧
          printedElement flags parts = entry.2.toList := by
  unfold printedElement
  split
  · rename_i keyword bare found
    -- The keyword is one that is shown, so it is the keyword of the element.
    have known : typeKeyword? parts.element = some keyword := by
      unfold shownKeyword? at found
      split at found <;> simp_all
    obtain ⟨name, member, named⟩ := typeKeyword?_eq_some known
    exact .inr ⟨_, member, bare, named, rfl⟩
  · exact .inl rfl

/-- An element is printed a second time as it is printed the first time. -/
theorem printedElement_again (flags : SignatureFlags) (parts : TypeNameParts) :
    printedElement flags (printedParts flags parts) = printedElement flags parts := by
  obtain ⟨element, arguments, suffix⟩ := parts
  cases arguments with
  | some inside => rfl
  | none =>
    have bare : printedParts flags ⟨element, none, suffix⟩ =
        ⟨printedElement flags ⟨element, none, suffix⟩, none, suffix⟩ := rfl
    rcases printedElement_cases flags ⟨element, none, suffix⟩ with same | ⟨entry, known, named⟩
    · rw [bare, same, same]
    · -- The keyword that has been printed is no name that has a keyword.
      obtain ⟨_, _, _, unknown⟩ := typeKeywords_plain entry known
      have hidden : shownKeyword? flags entry.2.toList = none := by simp [shownKeyword?, unknown]
      rw [bare, named.2.2, printedElement]
      simp only [hidden]

/-- Parts are printed a second time as they are printed the first time, if their arguments are. -/
theorem printedParts_again {flags : SignatureFlags} {parts : TypeNameParts}
    (again : ∀ inside, parts.arguments = some inside →
      printedArguments flags (printedArguments flags inside) = printedArguments flags inside) :
    printedParts flags (printedParts flags parts) = printedParts flags parts := by
  have element := printedElement_again flags parts
  obtain ⟨name, arguments, suffix⟩ := parts
  cases arguments with
  | none =>
    rw [printedParts, element]
    rfl
  | some inside => simp [printedParts, printedElement, again inside rfl]

/-- An element without a backquote is printed without one. -/
theorem noArity_printedElement {flags : SignatureFlags} {parts : TypeNameParts}
    (noArity : '\x60' ∉ parts.element) : '\x60' ∉ printedElement flags parts := by
  rcases printedElement_cases flags parts with same | ⟨entry, known, _, _, shown⟩
  · rwa [same]
  · obtain ⟨_, keyword, _⟩ := typeKeywords_plain entry known
    rw [shown]
    exact fun member => (keyword _ member).2.2 rfl

/-- The parts of a name keep their brackets when they are printed, if the arguments do. -/
theorem KeepsBrackets.parts {flags : SignatureFlags} {parts : TypeNameParts}
    (kept : ∀ inside, parts.arguments = some inside →
      KeepsBrackets inside (printedArguments flags inside)) :
    KeepsBrackets parts.text (printedParts flags parts).text := by
  -- There are neither brackets nor commas in a keyword and in the name that it stands for.
  have element : KeepsBrackets parts.element (printedElement flags parts) := by
    rcases printedElement_cases flags parts with same | ⟨entry, known, _, named, shown⟩
    · rw [same]
      exact .refl _
    · obtain ⟨system, keyword, _⟩ := typeKeywords_plain entry known
      rw [named, shown]
      refine .of_plain (fun c member => (unstopped (system c member)).1) fun c member => ?_
      obtain ⟨unbracketed, noComma, _⟩ := unstopped (keyword c member).1
      exact ⟨unbracketed, noComma⟩
  -- The suffix stays as it is, and so do the brackets around the arguments.
  refine (element.append ?_).append (.refl parts.suffix)
  cases list : parts.arguments with
  | none => simpa [printedParts, list] using KeepsBrackets.empty
  | some inside =>
    simpa [printedParts, list] using .keep '<' ((kept inside list).append (.refl ['>']))

/-- Parts that are cut again from their name are cut again from it when they are printed. -/
theorem CutName.printed {flags : SignatureFlags} {parts : TypeNameParts} (cut : CutName parts)
    (kept : ∀ inside, parts.arguments = some inside →
      KeepsBrackets inside (printedArguments flags inside)) :
    CutName (printedParts flags parts) := by
  rcases printedElement_cases flags parts with same | ⟨entry, known, bare, named, shown⟩
  · unfold printedParts
    rw [same]
    cases cut with
    | bare plain ended => exact .bare plain ended
    | generic plain closed =>
      -- The list is another text, which is closed by the same bracket.
      exact .generic plain ((kept _ rfl).closed closed)
    | unclosed plain uncut => exact .unclosed plain uncut
  · obtain ⟨system, keyword, _⟩ := typeKeywords_plain entry known
    unfold printedParts
    rw [shown]
    cases cut with
    | bare _ ended => exact .bare (fun c member => (unstopped (keyword c member).1).2.2) ended
    | generic => simp at bare
    | unclosed =>
      -- The name of a type with a keyword opens no list.
      exact absurd (by simp [elementStops]) (system '<' (named ▸ by simp))

/-- Parts without white space around them are printed without any. -/
theorem visibleEnds_printedParts {flags : SignatureFlags} {parts : TypeNameParts}
    (ends : VisibleEnds parts.text) : VisibleEnds (printedParts flags parts).text := by
  obtain ⟨element, arguments, suffix⟩ := parts
  cases arguments with
  | some inside =>
    -- Only what stands between the brackets is another text.
    have opened : element ++ ['<'] ≠ [] := by simp
    have closed : '>' :: suffix ≠ [] := by simp
    have around : VisibleEnds ((element ++ ['<']) ++ inside ++ '>' :: suffix) := by
      simpa [TypeNameParts.text] using ends
    simpa [TypeNameParts.text, printedParts, printedElement] using
      around.between opened closed (printedArguments flags inside)
  | none =>
    rcases printedElement_cases flags ⟨element, none, suffix⟩ with same | ⟨entry, known, named⟩
    · simpa [printedParts, same] using ends
    · obtain ⟨_, keyword, nonempty, _⟩ := typeKeywords_plain entry known
      have visible : VisibleEnds (entry.2.toList ++ suffix) := by
        refine visibleEnds_append nonempty (fun c member => (keyword c member).2.1) ?_
        -- The suffix ends as it does in the name.
        intro c inSuffix
        rw [Option.mem_def] at inSuffix
        exact ends.last c (by simp [TypeNameParts.text, List.getLast?_append, inSuffix])
      simpa [TypeNameParts.text, printedParts, named.2.2] using visible

/-- Something is printed of parts unless all of them are empty. -/
theorem printedParts_ne_nil {flags : SignatureFlags} {parts : TypeNameParts}
    (nonempty : parts.text ≠ []) : (printedParts flags parts).text ≠ [] := by
  obtain ⟨element, arguments, suffix⟩ := parts
  cases arguments with
  | some inside => simp [TypeNameParts.text, printedParts]
  | none =>
    rcases printedElement_cases flags ⟨element, none, suffix⟩ with same | ⟨entry, known, named⟩
    · simpa [printedParts, same] using nonempty
    · obtain ⟨_, _, present, _⟩ := typeKeywords_plain entry known
      have first : entry.2.toList ++ suffix ≠ [] := by simp [present]
      simpa [TypeNameParts.text, printedParts, named.2.2] using first

/-! Names that are printed -/

variable {flags : SignatureFlags} {name : List Char}

/-- A name without backquotes has none in its parts. -/
theorem noArity_split (noArity : '\x60' ∉ name) :
    '\x60' ∉ (splitTypeName (trim name)).text := by
  -- The parts make up the trimmed name, and no backquote is white space.
  rwa [splitTypeName_text, ← backquote_mem_withoutSpacing, withoutSpacing_trim,
    backquote_mem_withoutSpacing]

/-- A name without backquotes has none in its element. -/
theorem noArity_element (noArity : '\x60' ∉ name) :
    '\x60' ∉ (splitTypeName (trim name)).element := by
  have whole := noArity_split noArity
  exact fun member => whole (by simp [TypeNameParts.text, member])

/-- A name without backquotes has none in its arguments. -/
theorem noArity_of_argument {inside argument : List Char} (noArity : '\x60' ∉ name)
    (cut : (splitTypeName (trim name)).arguments = some inside)
    (member : argument ∈ genericArguments inside) : '\x60' ∉ argument := by
  have whole := noArity_split noArity
  refine noArity_argument (fun backquote => whole ?_) member
  simp [TypeNameParts.text, cut, backquote]

/-- What is printed of a name without backquotes, by the parts of the name. -/
theorem toList_typeSegments_noArity (shown : flags.namespaces = true) (noArity : '\x60' ∉ name) :
    (plainText (typeSegments flags name)).toList =
      (printedParts flags (splitTypeName (trim name))).text :=
  toList_typeSegments_printed shown rfl (noArity_element noArity)

/-- A name keeps its brackets when it is printed. -/
theorem keepsBrackets_typeSegments (shown : flags.namespaces = true) (noArity : '\x60' ∉ name) :
    KeepsBrackets name (plainText (typeSegments flags name)).toList := by
  induction name using typeName_induct with
  | step name ih =>
    -- The arguments keep theirs by the induction, and so the parts of the name do.
    let parts := splitTypeName (trim name)
    have kept : KeepsBrackets parts.text (printedParts flags parts).text :=
      .parts fun inside cut => .arguments fun argument member =>
        ih inside cut argument member (noArity_of_argument noArity cut member)
    rw [splitTypeName_text] at kept
    rw [toList_typeSegments_noArity shown noArity]
    exact .of_trim kept

/-- What is printed of a name has no white space at its ends, and is not empty unless the name is
blank. -/
theorem visible_typeSegments (shown : flags.namespaces = true) (noArity : '\x60' ∉ name) :
    VisibleEnds (plainText (typeSegments flags name)).toList ∧
      (trim name ≠ [] → (plainText (typeSegments flags name)).toList ≠ []) := by
  have whole := splitTypeName_text (trim name)
  rw [toList_typeSegments_noArity shown noArity]
  constructor
  · refine visibleEnds_printedParts ?_
    rw [whole]
    exact visibleEnds_trim name
  · intro nonempty
    refine printedParts_ne_nil ?_
    rwa [whole]

/-- The parts that are printed of a name are those that are cut from what is printed. -/
theorem splitTypeName_typeSegments (shown : flags.namespaces = true) (noArity : '\x60' ∉ name) :
    splitTypeName (trim (plainText (typeSegments flags name)).toList) =
      printedParts flags (splitTypeName (trim name)) := by
  have ends := (visible_typeSegments shown noArity).1
  -- There is nothing to be trimmed from what has been printed.
  rw [trim_visible ends, toList_typeSegments_noArity shown noArity]
  -- The arguments keep their brackets, so that their list is closed where it has been.
  refine CutName.again ((cutName_splitTypeName (trim name)).printed fun inside cut => ?_)
  exact .arguments fun argument member =>
    keepsBrackets_typeSegments shown (noArity_of_argument noArity cut member)

/-- The arguments that are printed of a list are those that are cut from what is printed. -/
theorem genericArguments_printedArguments (shown : flags.namespaces = true) {list : List Char}
    (noArity : ∀ argument ∈ genericArguments list, '\x60' ∉ argument) :
    genericArguments (printedArguments flags list) =
      (genericArguments list).map fun argument =>
        (plainText (typeSegments flags argument)).toList := by
  refine genericArguments_printed ?_ ?_
  · exact fun argument member => keepsBrackets_typeSegments shown (noArity argument member)
  · intro argument member
    obtain ⟨nonempty, ends⟩ := genericArguments_visible member
    obtain ⟨visible, present⟩ := visible_typeSegments shown (noArity argument member)
    exact ⟨present (by rwa [trim_visible ends]), visible⟩

/-- With namespaces, what is printed of a type name without arities is printed as it stands, whether
the brackets of the name match or not. -/
theorem plainText_typeSegments_again (shown : flags.namespaces = true) (noArity : '\x60' ∉ name) :
    plainText (typeSegments flags (plainText (typeSegments flags name)).toList) =
      plainText (typeSegments flags name) := by
  apply String.toList_inj.mp
  -- An argument that has been printed is an argument of what has been printed of the name.
  induction name using typeName_induct with
  | step name ih =>
    -- Both times the same parts are printed, but for the arguments and the keyword.
    have split := splitTypeName_typeSegments shown noArity
    have unmarked : '\x60' ∉ (printedParts flags (splitTypeName (trim name))).element :=
      noArity_printedElement (noArity_element noArity)
    rw [toList_typeSegments_printed shown split unmarked, toList_typeSegments_noArity shown noArity]
    refine congrArg TypeNameParts.text (printedParts_again fun inside cut => ?_)
    -- By the induction, each of the arguments is printed as it stands.
    have inner : ∀ argument ∈ genericArguments inside, '\x60' ∉ argument :=
      fun argument member => noArity_of_argument noArity cut member
    rw [printedArguments, genericArguments_printedArguments shown inner, List.map_map]
    refine congrArg _ (List.map_congr_left fun argument member => ?_)
    exact ih inside cut argument member (inner argument member)

/-- An empty argument goes and a keyword is shown, while brackets without partners tell both times
where the list and its arguments end. -/
theorem plainText_typeSegments_again_malformed :
    let name := "A<], ,System.Int32*,B[<System.Int32 ,,C>,>\t,\tx".toList
    let printed := "A<], int*, B[<System.Int32 ,,C>,>\t,\tx"
    SignatureFlags.all.namespaces = true ∧ '\x60' ∉ name ∧
      plainText (typeSegments .all name) = printed ∧
        plainText (typeSegments .all printed.toList) = printed := by
  intro name printed
  have noArity : '\x60' ∉ name := by decide
  have first : plainText (typeSegments .all name) = printed := by decide +kernel
  have again : plainText (typeSegments .all (plainText (typeSegments .all name)).toList) =
      plainText (typeSegments .all name) := plainText_typeSegments_again rfl noArity
  rw [first] at again
  exact ⟨rfl, noArity, first, again⟩

end BreakpointGlyph
