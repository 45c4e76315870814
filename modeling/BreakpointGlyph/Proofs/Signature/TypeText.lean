import BreakpointGlyph.Proofs.Signature.TypeTree

/-! The printer of signatures shows every well-formed type name by its structure. -/

namespace BreakpointGlyph

/-- Two items of a list have a comma and a space between them. -/
theorem toList_listSeparator : (plainText listSeparator).toList = [',', ' '] := by
  decide

/-- The text of lines with a separator between them is the separated texts of the lines. -/
theorem toList_plainText_intercalate (separator : List Segment) (lines : List (List Segment)) :
    (plainText (separator.intercalate lines)).toList =
      (plainText separator).toList.intercalate (lines.map fun line => (plainText line).toList) := by
  -- A separator stands behind each line that has another one behind it.
  induction lines with
  | nil => simp [toList_plainText]
  | cons first rest ih =>
    cases rest with
    | nil => simp
    | cons second others =>
      rw [List.intercalate_cons_cons, plainText_append, plainText_append, String.toList_append,
        String.toList_append, ih]
      simp only [List.map_cons, List.intercalate_cons_cons]

/-- A dotted name is shown with all of its dots. -/
theorem toList_dottedSegments (color : TextColor) (name : List Char) :
    (plainText (dottedSegments color name)).toList = name := by
  -- Cutting at the dots is undone by putting them back.
  have rejoined : ['.'].intercalate (name.splitOn '.') = name := List.intercalate_splitOn '.'
  rw [List.intercalate] at rejoined
  -- Dropping the colors leaves the parts with a dot between two of them.
  have texts : ∀ parts : List (List Char),
      (((parts.map (Segment.ofChars color)).intersperse (.mark ".")).flatMap fun segment =>
        segment.text.toList) = (parts.intersperse ['.']).flatten := by
    intro parts
    induction parts with
    | nil => rfl
    | cons first rest ih =>
      cases rest with
      | nil => simp [Segment.ofChars]
      | cons second others => simp_all [Segment.ofChars, Segment.mark]
  rw [toList_plainText, dottedSegments, texts, rejoined]

/-- A suffix is shown as written. -/
theorem toList_suffixSegments (suffix : List Char) :
    (plainText (suffixSegments suffix)).toList = suffix := by
  -- An empty suffix makes no segment, and any other makes one.
  unfold suffixSegments
  split
  · rename_i empty
    simp [toList_plainText, empty]
  · simp [toList_plainText, Segment.ofChars]

/-- A name without a backquote has no arity to be taken away, and any other name has. -/
theorem stripArity_eq_self_iff {name : List Char} : stripArity name = name ↔ '\x60' ∉ name := by
  constructor
  · intro same member
    have other := List.all_eq_true.mp List.all_takeWhile '\x60' (same.symm ▸ member)
    simp at other
  · intro absent
    have read : (name ++ []).takeWhile (· != '\x60') = name := takeWhile_field absent (by simp)
    rwa [List.append_nil] at read

/-- An element name has something in front of its last part if there is a dot in it. That front is
shown where namespaces are, and the last part is shown up to its arity. -/
theorem elementSegments_front (flags : SignatureFlags) (element : List Char) :
    ∃ front, element = front ++ lastDotted element ∧ (front = [] ↔ '.' ∉ element) ∧
      (plainText (elementSegments flags element)).toList =
        (if flags.namespaces then front else []) ++ stripArity (lastDotted element) := by
  cases cut : cutAtLast '.' element with
  | none =>
    -- The name has one part only.
    refine ⟨[], ?_, ?_, ?_⟩
    · simp [lastDotted, cut]
    · simpa using not_mem_of_cutAtLast cut
    · simp [elementSegments, lastDotted, cut, toList_plainText, Segment.ofChars]
  | some parts =>
    obtain ⟨namespaceName, last⟩ := parts
    have joined := eq_of_cutAtLast cut
    have dotted := toList_dottedSegments .namespaceName namespaceName
    refine ⟨namespaceName ++ ['.'], ?_, ?_, ?_⟩
    · simpa [lastDotted, cut] using joined
    · simp [joined]
    · rw [toList_plainText] at dotted
      cases shown : flags.namespaces <;>
        simp [elementSegments, lastDotted, cut, shown, toList_plainText, dotted, Segment.ofChars,
          Segment.mark]

/-- White space around a type name makes no difference to what is printed. -/
theorem typeSegments_trim (flags : SignatureFlags) (name : List Char) :
    typeSegments flags (trim name) = typeSegments flags name := by
  -- The printer trims the name before it looks at it.
  rw [typeSegments_eq, typeSegments_eq flags name, trim_trim]

/-- The arity goes, and the identifier in front of it stays. -/
theorem stripArity_last (element : ElementName) :
    stripArity (element.last.text ++ element.arityText) = element.last.text := by
  -- An identifier has no backquote, and an arity starts with one.
  have absent : '\x60' ∉ element.last.text := by
    intro member
    exact (element.last.plain '\x60' member).1 (by decide)
  refine takeWhile_field absent ?_
  unfold ElementName.arityText
  split <;> simp

/-- There is no dot behind the namespaces of an element. -/
theorem dot_not_mem_last (element : ElementName) :
    '.' ∉ element.last.text ++ element.arityText := by
  -- A dot is a mark, which neither an identifier nor an arity holds.
  have marked : '.' ∈ typeNameMarks := by decide
  intro member
  rcases List.mem_append.mp member with member | member
  · exact (element.last.plain '.' member).1 marked
  · rcases ElementName.mem_arityText member with backquote | digit
    · exact absurd backquote (by decide)
    · exact (isDigit_plain digit).1 marked

/-- An element without namespaces has no dot to be cut at. -/
theorem cutAtLast_unqualified {element : ElementName} (bare : element.qualifiers = []) :
    cutAtLast '.' element.text = none := by
  -- What is left of it is the part behind the namespaces.
  apply cutAtLast_eq_none
  simpa [ElementName.text, ElementName.qualifierText, bare] using dot_not_mem_last element

/-- An element is cut behind the last of its namespaces. -/
theorem cutAtLast_qualified {element : ElementName} {outer : List TypeIdentifier}
    {inner : TypeIdentifier} (qualified : element.qualifiers = outer ++ [inner]) :
    cutAtLast '.' element.text =
      some ((outer.flatMap fun qualifier => qualifier.text ++ ['.']) ++ inner.text,
        element.last.text ++ element.arityText) := by
  -- The dot behind the innermost namespace is the last one.
  have shape : element.text =
      ((outer.flatMap fun qualifier => qualifier.text ++ ['.']) ++ inner.text) ++
        '.' :: (element.last.text ++ element.arityText) := by
    simp [ElementName.text, ElementName.qualifierText, qualified]
  rw [shape]
  exact cutAtLast_append (dot_not_mem_last element) _

/-- An element name is shown by its parts. -/
theorem toList_elementSegments (flags : SignatureFlags) (element : ElementName) :
    (plainText (elementSegments flags element.text)).toList = element.shown flags := by
  rcases List.eq_nil_or_concat element.qualifiers with bare | ⟨outer, inner, qualified⟩
  · -- Without namespaces the whole element is the identifier and its arity.
    have strip : stripArity element.text = element.last.text := by
      simpa [ElementName.text, ElementName.qualifierText, bare] using stripArity_last element
    simp [elementSegments, cutAtLast_unqualified bare, strip, ElementName.shown,
      ElementName.qualifierText, bare, toList_plainText, Segment.ofChars]
  · rw [List.concat_eq_append] at qualified
    have dotted := toList_dottedSegments .namespaceName
      ((outer.flatMap fun qualifier => qualifier.text ++ ['.']) ++ inner.text)
    rw [toList_plainText] at dotted
    -- The namespaces are shown up to the dot that the name is cut at, or not at all.
    cases shown : flags.namespaces <;>
      simp [elementSegments, cutAtLast_qualified qualified, stripArity_last, ElementName.shown,
        ElementName.qualifierText, qualified, shown, toList_plainText, Segment.ofChars,
        Segment.mark, dotted]

/-- Each name with a keyword is cut into `System` and the rest, which has no backquote. -/
theorem typeKeywords_cut : ∀ entry ∈ typeKeywords,
    cutAtLast '.' ("System." ++ entry.1).toList = some ("System".toList, entry.1.toList) ∧
      '\x60' ∉ entry.1.toList := by
  decide +kernel

/-- A name with a keyword has the one namespace `System` and no arity. -/
theorem eq_of_typeKeywords {element : ElementName} {entry : String × String}
    (known : entry ∈ typeKeywords) (same : ("System." ++ entry.1).toList = element.text) :
    ∃ qualifier, element.qualifiers = [qualifier] ∧ qualifier.text = "System".toList ∧
      element.arity = none := by
  obtain ⟨cut, noBackquote⟩ := typeKeywords_cut entry known
  -- The same text is cut in the same way, so the parts of the element are those of the entry.
  rw [same] at cut
  rcases List.eq_nil_or_concat element.qualifiers with bare | ⟨outer, inner, qualified⟩
  · simp [cutAtLast_unqualified bare] at cut
  · rw [List.concat_eq_append] at qualified
    simp only [cutAtLast_qualified qualified, Option.some.injEq, Prod.mk.injEq] at cut
    obtain ⟨namespaces, name⟩ := cut
    have single : outer = [] := by
      -- A second namespace would leave a dot in `System`.
      cases outer with
      | nil => rfl
      | cons first rest =>
        have dot : '.' ∈ "System".toList := by simp [← namespaces]
        exact absurd dot (by decide)
    subst single
    refine ⟨inner, by simpa using qualified, by simpa using namespaces, ?_⟩
    -- An arity would leave a backquote in the name.
    cases arity : element.arity with
    | none => rfl
    | some digits =>
      have backquote : '\x60' ∈ entry.1.toList := by
        simp [← name, ElementName.arityText, arity]
      exact absurd backquote noBackquote

/-- Looking up a written element finds the keyword of its parts. -/
theorem typeKeyword?_element (element : ElementName) :
    typeKeyword? element.text = element.keyword? := by
  by_cases wellPlaced : ∃ qualifier, element.qualifiers = [qualifier] ∧
      qualifier.text = "System".toList ∧ element.arity = none
  · -- Right in `System`, only the identifiers are left to compare.
    obtain ⟨qualifier, single, system, bare⟩ := wellPlaced
    have shape : element.text = "System.".toList ++ element.last.text := by
      simp [ElementName.text, ElementName.qualifierText, ElementName.arityText, single, system,
        bare]
    have compare : (fun entry : String × String =>
        ("System." ++ entry.1).toList == element.text) =
          fun entry => entry.1.toList == element.last.text := by
      funext entry
      rw [shape, String.toList_append, Bool.eq_iff_iff]
      simp
    simp only [typeKeyword?, compare, ElementName.keyword?, single, bare, system, if_true]
  · -- Anywhere else there is nothing to be found.
    have absent : typeKeyword? element.text = none := by
      rw [typeKeyword?, Option.map_eq_none_iff, List.find?_eq_none]
      intro entry known same
      exact wellPlaced (eq_of_typeKeywords known (by simpa using same))
    rw [absent, ElementName.keyword?]
    split
    · rename_i qualifier single bare
      rw [if_neg fun system => wellPlaced ⟨qualifier, single, system, bare⟩]
    · rfl

/-- The arguments of a written list are its parts, trimmed. -/
theorem genericArguments_texts {trees : List TypeTree} (nonempty : trees ≠ []) :
    genericArguments ([','].intercalate (TypeTree.texts trees)) =
      (TypeTree.texts trees).map trim := by
  rw [genericArguments,
    splitAtCommas_intercalate (by simpa using nonempty) (Nested.separable TypeTree.nested_texts),
    List.filter_eq_self]
  -- No argument is dropped, since each has an element.
  intro part member
  rw [TypeTree.texts_eq, List.map_map] at member
  obtain ⟨tree, _, rfl⟩ := List.mem_map.mp member
  simpa using tree.trim_text_ne_nil

/-- A name without arguments is shown by its keyword or by its element. -/
theorem toList_typeSegments_bare (flags : SignatureFlags) (element : ElementName)
    (suffixes : List TypeSuffix) :
    (plainText (typeSegments flags (writtenName element [] suffixes))).toList =
      shownName flags element [] suffixes := by
  -- A keyword is looked up by the text of the element, and stands for all of it.
  rw [typeSegments_eq, trim_visible (visibleEnds_writtenName ..)]
  simp only [splitTypeName_bare, shownKeyword?, typeKeyword?_element, shownName]
  cases flags.typeKeywords <;> cases element.keyword? <;>
    simp [plainText_append, plainText_cons, toList_elementSegments, toList_suffixSegments]

/-- A name with arguments is shown by its element and by what is shown of the arguments. -/
theorem toList_typeSegments_generic (flags : SignatureFlags) (element : ElementName)
    {arguments : List TypeTree} (suffixes : List TypeSuffix) (nonempty : arguments ≠ [])
    (printed : ∀ argument ∈ arguments,
      (plainText (typeSegments flags argument.text)).toList = argument.shown flags) :
    (plainText (typeSegments flags
        (writtenName element (TypeTree.texts arguments) suffixes))).toList =
      shownName flags element (TypeTree.allShown flags arguments) suffixes := by
  have nested : ∀ text ∈ TypeTree.texts arguments, Nested true text :=
    fun text member => (TypeTree.nested_texts text member).allow
  -- The printed arguments are the shown ones, one by one.
  have inner : (((TypeTree.texts arguments).map trim).map (typeSegments flags)).map
      (fun line => (plainText line).toList) = TypeTree.allShown flags arguments := by
    rw [TypeTree.texts_eq, TypeTree.allShown_eq, List.map_map, List.map_map, List.map_map]
    refine List.map_congr_left fun argument member => ?_
    simpa [typeSegments_trim] using printed argument member
  -- There is a first argument, so this is not the case in which a keyword is looked for.
  obtain ⟨first, rest, split⟩ := List.exists_cons_of_ne_nil
    (show TypeTree.allShown flags arguments ≠ [] by simpa using nonempty)
  rw [typeSegments_eq, trim_visible (visibleEnds_writtenName ..)]
  simp only [splitTypeName_generic element suffixes (by simpa using nonempty) nested,
    genericArguments_texts nonempty, plainText_append, String.toList_append,
    toList_elementSegments, toList_plainText_intercalate, inner, toList_listSeparator, split,
    toList_suffixSegments, shownName]
  simp [toList_plainText, Segment.mark]

/-- The printer shows a well-formed type name, in whatever white space, as its structure tells. -/
theorem plainText_typeSegments (flags : SignatureFlags) (tree : TypeTree) :
    plainText (typeSegments flags tree.text) = String.ofList (tree.shown flags) := by
  apply String.toList_inj.mp
  rw [String.toList_ofList]
  -- The arguments are printed one level down, where they are names of their own.
  induction tree using TypeTree.induct with
  | node before element arguments suffixes after ih =>
    rw [← typeSegments_trim, TypeTree.trim_text, TypeTree.shown]
    by_cases bare : arguments = []
    · subst bare
      exact toList_typeSegments_bare flags element suffixes
    · exact toList_typeSegments_generic flags element suffixes bare ih

/-- White space and arities go, the commas of an array stay, and `System.Int32` is a keyword. -/
example :
    let bare : Blanks := ⟨[], by simp⟩
    let space : Blanks := ⟨[' '], by simp [isBlank, inRanges, blankRanges]⟩
    let system : TypeIdentifier :=
      ⟨"System".toList, by simp, by simp [typeNameMarks, isBlank, inRanges, blankRanges]⟩
    let int : TypeIdentifier :=
      ⟨"Int32".toList, by simp, by simp [typeNameMarks, isBlank, inRanges, blankRanges]⟩
    let list : TypeIdentifier :=
      ⟨"List".toList, by simp, by simp [typeNameMarks, isBlank, inRanges, blankRanges]⟩
    let one : TypeArity := ⟨['1'], by simp, by simp⟩
    let tree : TypeTree :=
      .node bare ⟨[], list, some one⟩
        [.node space ⟨[system], int, none⟩ [] [.array 1] bare] [.pointer] bare
    tree.text = "List`1< System.Int32[,]>*".toList ∧
      tree.shown .all = "List<int[,]>*".toList := by
  decide +kernel

end BreakpointGlyph
