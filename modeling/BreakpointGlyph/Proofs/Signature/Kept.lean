import BreakpointGlyph.Proofs.Signature.NameParts
import BreakpointGlyph.Proofs.Signature.Parts
import BreakpointGlyph.Proofs.Signature.TypeText

/-! Printing a type name loses nothing but white space and commas, however malformed the name is. -/

namespace BreakpointGlyph

/-! White space and commas -/

/-- Spacing is left out of two texts side by side as it is out of each. -/
@[simp] theorem withoutSpacing_append (front back : List Char) :
    withoutSpacing (front ++ back) = withoutSpacing front ++ withoutSpacing back :=
  List.filter_append front back

/-- Dropping white space takes away only what is left out anyway. -/
theorem withoutSpacing_dropBlanks (text : List Char) :
    withoutSpacing (text.dropWhile isBlank) = withoutSpacing text := by
  induction text with
  | nil => rfl
  | cons c rest ih =>
    -- A blank in front is left out on both sides, and at any other character dropping ends.
    by_cases blank : isBlank c = true
    · rw [List.dropWhile_cons_of_pos blank, ih]
      simp [withoutSpacing, blank]
    · rw [List.dropWhile_cons_of_neg blank]

/-- Trimming takes away only what is left out anyway. -/
theorem withoutSpacing_trim (text : List Char) :
    withoutSpacing (trim text) = withoutSpacing text := by
  -- The second pass is over the reversed text.
  have turned : ∀ text : List Char,
      withoutSpacing text.reverse = (withoutSpacing text).reverse := fun _ => List.filter_reverse
  rw [trim, turned, withoutSpacing_dropBlanks, turned, List.reverse_reverse,
    withoutSpacing_dropBlanks]

/-- The parts between commas have all that is not left out, in order. -/
theorem withoutSpacing_splitAtCommas (depth : Nat) (text : List Char) :
    (splitAtCommas depth text).flatMap withoutSpacing = withoutSpacing text := by
  induction text generalizing depth with
  | nil => rfl
  | cons c rest ih =>
    have single : withoutSpacing (c :: rest) = withoutSpacing [c] ++ withoutSpacing rest :=
      withoutSpacing_append [c] rest
    rw [splitAtCommas]
    split
    · rename_i comma
      rw [List.flatMap_cons, ih, single, comma.1]
      rfl
    · -- The character goes to the first of the parts of the rest.
      obtain ⟨first, others, parts⟩ :=
        List.exists_cons_of_ne_nil (splitAtCommas_ne_nil (bracketDepth depth c) rest)
      have inner := ih (bracketDepth depth c)
      rw [parts, List.flatMap_cons] at inner
      rw [parts, List.modifyHead_cons, List.flatMap_cons, single, ← inner, ← List.append_assoc]
      rw [← withoutSpacing_append [c] first]
      rfl

/-- The arguments of a list have all that is not left out, in order. -/
theorem withoutSpacing_genericArguments (list : List Char) :
    (genericArguments list).flatMap withoutSpacing = withoutSpacing list := by
  -- An argument that is dropped is empty.
  have kept : ∀ parts : List (List Char),
      (parts.filter (· ≠ [])).flatMap withoutSpacing = parts.flatMap withoutSpacing := by
    intro parts
    induction parts with
    | nil => rfl
    | cons part rest ih =>
      by_cases empty : part = []
      · simpa [empty, withoutSpacing] using ih
      · simpa [empty] using ih
  rw [genericArguments, kept, List.flatMap_map]
  simp only [withoutSpacing_trim, withoutSpacing_splitAtCommas]

/-! Printing a name -/

/-- An element without an arity is shown as a whole where namespaces are. -/
theorem toList_elementSegments_whole {flags : SignatureFlags} (shown : flags.namespaces = true)
    {element : List Char} (noArity : '\x60' ∉ element) :
    (plainText (elementSegments flags element)).toList = element := by
  -- There is no backquote behind which anything would be taken away from the last part.
  obtain ⟨front, joined, _, text⟩ := elementSegments_front flags element
  have last : '\x60' ∉ lastDotted element := fun member =>
    noArity (joined ▸ List.mem_append_right front member)
  rw [text, stripArity_eq_self_iff.mpr last, shown, if_pos rfl, ← joined]

/-- Separators of spacing alone leave nothing between the texts that they are put between. -/
theorem withoutSpacing_intercalate {separator : List Char} (spacing : withoutSpacing separator = [])
    (texts : List (List Char)) :
    withoutSpacing (separator.intercalate texts) = texts.flatMap withoutSpacing := by
  induction texts with
  | nil => rfl
  | cons first rest ih =>
    -- There is a separator behind the first text if there is a second one.
    cases rest with
    | nil => simp
    | cons second others =>
      rw [List.intercalate_cons_cons, withoutSpacing_append, withoutSpacing_append, spacing, ih]
      simp

/-- The text of an argument list that is printed: its arguments as names of their own. -/
def printedArguments (flags : SignatureFlags) (list : List Char) : List Char :=
  [',', ' '].intercalate
    ((genericArguments list).map fun argument => (plainText (typeSegments flags argument)).toList)

/-- The element of a name as it is printed: by its keyword, if it has one that is shown and no
arguments. -/
def printedElement (flags : SignatureFlags) (parts : TypeNameParts) : List Char :=
  match parts.arguments, shownKeyword? flags parts.element with
  | none, some keyword => keyword.toList
  | _, _ => parts.element

/-- The parts of a name as they are printed. -/
def printedParts (flags : SignatureFlags) (parts : TypeNameParts) : TypeNameParts :=
  ⟨printedElement flags parts, parts.arguments.map (printedArguments flags), parts.suffix⟩

/-- With namespaces, a name without an arity is put together again from its parts as they are
printed. -/
theorem toList_typeSegments_printed {flags : SignatureFlags} (shown : flags.namespaces = true)
    {name : List Char} {parts : TypeNameParts} (split : splitTypeName (trim name) = parts)
    (noArity : '\x60' ∉ parts.element) :
    (plainText (typeSegments flags name)).toList = (printedParts flags parts).text := by
  obtain ⟨element, arguments, suffix⟩ := parts
  have whole := toList_elementSegments_whole shown noArity
  cases arguments with
  | none =>
    -- A keyword stands for all of the element.
    have head : (plainText (bareSegments flags element)).toList =
        printedElement flags ⟨element, none, suffix⟩ := by
      rw [bareSegments, printedElement]
      dsimp only
      cases shownKeyword? flags element with
      | none => exact whole
      | some keyword => simp [plainText]
    rw [typeSegments_bare flags split, plainText_append, String.toList_append, head,
      toList_suffixSegments]
    simp [TypeNameParts.text, printedParts]
  | some inside =>
    -- Between the brackets there is what is printed of the arguments, and no more.
    rw [typeSegments_generic flags split]
    simp only [plainText_append, plainText_mark, String.toList_append, whole, toList_suffixSegments,
      toList_plainText_intercalate, toList_listSeparator, TypeNameParts.text, printedParts,
      printedElement, printedArguments, Option.map_some, List.map_map, Function.comp_def]
    simp

/-- With namespaces and without keywords, a name is put together again from its parts, the list of
its arguments being printed anew. -/
theorem toList_typeSegments_parts {flags : SignatureFlags} (shown : flags.namespaces = true)
    (spelled : flags.typeKeywords = false) {name : List Char} {parts : TypeNameParts}
    (split : splitTypeName (trim name) = parts) (noArity : '\x60' ∉ parts.element) :
    (plainText (typeSegments flags name)).toList =
      TypeNameParts.text
        ⟨parts.element, parts.arguments.map (printedArguments flags), parts.suffix⟩ := by
  -- No keyword stands for the element.
  have element : printedElement flags parts = parts.element := by
    unfold printedElement
    cases parts.arguments <;> simp [shownKeyword?, spelled]
  rw [toList_typeSegments_printed shown split noArity, printedParts, element]

/-- A backquote is not left out with the spacing. -/
theorem backquote_mem_withoutSpacing (text : List Char) :
    '\x60' ∈ withoutSpacing text ↔ '\x60' ∈ text := by
  have visible : isBlank '\x60' = false := by decide
  simp [withoutSpacing, visible]

/-- No argument of a list without backquotes has one. -/
theorem noArity_argument {list argument : List Char} (noArity : '\x60' ∉ list)
    (member : argument ∈ genericArguments list) : '\x60' ∉ argument :=
  -- Each argument is a stretch of the list.
  fun backquote => noArity ((infix_of_mem_genericArguments member).mem backquote)

/-- What is left of a name is told by what is left of its argument list. -/
theorem withoutSpacing_text_congr {element inside inside' suffix : List Char}
    (same : withoutSpacing inside = withoutSpacing inside') :
    withoutSpacing (TypeNameParts.text ⟨element, some inside, suffix⟩) =
      withoutSpacing (TypeNameParts.text ⟨element, some inside', suffix⟩) := by
  simp only [withoutSpacing] at same
  simp [TypeNameParts.text, withoutSpacing, List.filter_cons, same]

/-- An argument list that is printed has all of its text but spacing, if its arguments have. -/
theorem withoutSpacing_printedArguments {flags : SignatureFlags} {list : List Char}
    (kept : ∀ argument ∈ genericArguments list,
      withoutSpacing (plainText (typeSegments flags argument)).toList = withoutSpacing argument) :
    withoutSpacing (printedArguments flags list) = withoutSpacing list := by
  -- All of the separators is spacing, those that were there and those that are printed.
  have spacing : withoutSpacing [',', ' '] = [] := by decide
  rw [printedArguments, withoutSpacing_intercalate spacing, List.flatMap_map,
    ← withoutSpacing_genericArguments list, List.flatMap_def, List.flatMap_def,
    List.map_congr_left kept]

/-- With namespaces and without keywords, printing a type name without arities keeps all of it but
white space and commas, in order and once, whether its brackets match or not. -/
theorem withoutSpacing_typeSegments {flags : SignatureFlags} (shown : flags.namespaces = true)
    (spelled : flags.typeKeywords = false) {name : List Char} (noArity : '\x60' ∉ name) :
    withoutSpacing (plainText (typeSegments flags name)).toList = withoutSpacing name := by
  -- What is printed of the arguments is kept by the induction, and the rest is printed as it is.
  induction name using typeName_induct with
  | step name ih =>
    rcases split : splitTypeName (trim name) with ⟨element, arguments, suffix⟩
    -- All of the parts are in the name.
    have same : withoutSpacing (TypeNameParts.text ⟨element, arguments, suffix⟩) =
        withoutSpacing name := by
      rw [← split, splitTypeName_text, withoutSpacing_trim]
    have unmarked : '\x60' ∉ TypeNameParts.text ⟨element, arguments, suffix⟩ := by
      rwa [← backquote_mem_withoutSpacing, same, backquote_mem_withoutSpacing]
    have first : '\x60' ∉ element := fun member =>
      unmarked (by simp [TypeNameParts.text, member])
    rw [toList_typeSegments_parts shown spelled split first, ← same]
    cases arguments with
    | none => rfl
    | some inside =>
      have plain : '\x60' ∉ inside := fun member =>
        unmarked (by simp [TypeNameParts.text, member])
      refine withoutSpacing_text_congr (withoutSpacing_printedArguments fun argument member => ?_)
      exact ih inside (by rw [split]) argument member (noArity_argument plain member)

/-- An empty argument and the commas go, and the bracket that closes nothing stays. -/
theorem withoutSpacing_typeSegments_malformed :
    let flags : SignatureFlags := ⟨true, true, true, true, true, false⟩
    let name := " .A..B< C[>, ,D]>\tx".toList
    flags.namespaces = true ∧ flags.typeKeywords = false ∧ '\x60' ∉ name ∧
      withoutSpacing (plainText (typeSegments flags name)).toList = ".A..B<C[>D]>x".toList := by
  have noArity : '\x60' ∉ " .A..B< C[>, ,D]>\tx".toList := by decide
  refine ⟨rfl, rfl, noArity, (withoutSpacing_typeSegments rfl rfl noArity).trans ?_⟩
  decide

end BreakpointGlyph
