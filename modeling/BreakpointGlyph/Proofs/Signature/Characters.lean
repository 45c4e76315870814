import BreakpointGlyph.Proofs.Signature.Commas
import BreakpointGlyph.Proofs.Signature.Parts
import BreakpointGlyph.Proofs.Signature.TypeText
import BreakpointGlyph.Proofs.Text.Joined

/-! Signatures are printed with the characters of the names in them and with a few marks. -/

namespace BreakpointGlyph

/-- The characters that the printer has of its own: its marks, the space, and what keywords are
spelled with. -/
def isPrinterMark (c : Char) : Bool :=
  c.isLower || c ∈ [' ', '.', ',', '<', '>', '(', ')']

/-- The texts of a parameter. -/
def Parameter.texts (parameter : Parameter) : List String :=
  parameter.typeName :: parameter.name.toList

/-- The texts of a method that its signature is made from. -/
def Method.texts (method : Method) : List String :=
  [method.namespaceName, method.declaringType, method.name] ++ method.returnType.toList ++
    method.parameters.flatMap Parameter.texts

/-- Keywords are spelled in lower case. -/
theorem typeKeywords_spelled :
    (typeKeywords.all fun entry => entry.2.toList.all isPrinterMark) = true := by
  decide +kernel

variable {c : Char} {flags : SignatureFlags}

/-- A line that may be left out shows characters of its own only. -/
theorem mem_of_mem_shown {shown : Bool} {line : List Segment}
    (member : c ∈ (plainText (if shown then line else [])).toList) :
    c ∈ (plainText line).toList := by
  -- A line that is left out shows nothing at all.
  cases shown with
  | false => simp [plainText] at member
  | true => exact member

/-- An element is shown with characters of its own only. -/
theorem mem_of_mem_elementSegments {element : List Char}
    (member : c ∈ (plainText (elementSegments flags element)).toList) : c ∈ element := by
  -- An element is its front and its last part, and no more than these is shown.
  obtain ⟨front, joined, -, text⟩ := elementSegments_front flags element
  rw [text, List.mem_append] at member
  rw [joined, List.mem_append]
  cases member with
  | inl inFront =>
    -- The namespaces are shown as a whole or not at all.
    split at inFront
    · exact .inl inFront
    · simp at inFront
  | inr inLast => exact .inr ((List.takeWhile_sublist _).subset inLast)

/-- The name of a method is shown with characters of the method or of its type. -/
theorem mem_of_mem_nameSegment {method : Method}
    (member : c ∈ (nameSegment method).text.toList) :
    c ∈ method.declaringType.toList ∨ c ∈ method.name.toList := by
  -- Only a constructor goes by another name than its own.
  unfold nameSegment at member
  split at member
  · -- A constructor is shown by what is behind the last dot of its type.
    obtain ⟨front, joined, -, -⟩ := elementSegments_front .all method.declaringType.toList
    refine .inl (joined ▸ List.mem_append_right front ?_)
    simpa [Segment.ofChars] using member
  · exact .inr member

section

variable (foreign : isPrinterMark c = false)

include foreign

/-- A character that is no mark of the printer differs from each of its marks. -/
theorem ne_printerMark (mark : Char) (marked : isPrinterMark mark = true) : c ≠ mark := by
  -- One of them is a mark and the other is not.
  intro same
  subst same
  simp [foreign] at marked

/-- No keyword is spelled with such a character. -/
theorem not_mem_shownKeyword {element : List Char} {keyword : String}
    (shown : shownKeyword? flags element = some keyword) : c ∉ keyword.toList := by
  have known : typeKeyword? element = some keyword := by
    unfold shownKeyword? at shown
    split at shown
    · exact shown
    · simp at shown
  -- So the keyword is one of those that are listed.
  obtain ⟨entry, found, rfl⟩ := Option.map_eq_some_iff.mp known
  intro member
  have spelled := List.all_eq_true.mp typeKeywords_spelled entry (List.mem_of_find?_eq_some found)
  exact ne_printerMark foreign c (List.all_eq_true.mp spelled c member) rfl

/-- A list is shown with characters of its items and with marks of the printer. -/
theorem exists_item_of_mem {α : Type} {items : List α} {line : α → List Segment}
    (member : c ∈ (plainText (listSeparator.intercalate (items.map line))).toList) :
    ∃ item ∈ items, c ∈ (plainText (line item)).toList := by
  -- Commas and spaces between the items are marks, so the character is in an item.
  have comma := ne_printerMark foreign ',' (by decide)
  have space := ne_printerMark foreign ' ' (by decide)
  have absent : c ∉ [',', ' '] := by simp [comma, space]
  rw [toList_plainText_intercalate, toList_listSeparator, mem_intercalate_iff absent,
    List.map_map] at member
  obtain ⟨text, listed, inText⟩ := member
  obtain ⟨item, inItems, rfl⟩ := List.mem_map.mp listed
  exact ⟨item, inItems, inText⟩

/-- An element or its keyword is shown with characters of the element and with marks. -/
theorem mem_of_mem_bareSegments {element : List Char}
    (member : c ∈ (plainText (bareSegments flags element)).toList) : c ∈ element := by
  -- A keyword is made of marks, and everything else is the element itself.
  unfold bareSegments at member
  split at member
  · rename_i keyword shown
    have inKeyword : c ∈ keyword.toList := by simpa [plainText] using member
    exact absurd inKeyword (not_mem_shownKeyword foreign shown)
  · exact mem_of_mem_elementSegments member

/-- A type name is shown with characters of its own and with marks of the printer. -/
theorem mem_of_mem_typeSegments {name : List Char}
    (member : c ∈ (plainText (typeSegments flags name)).toList) : c ∈ name := by
  -- By the induction an argument is shown with characters of the list that it stands in.
  induction name using typeName_induct with
  | step name ih =>
    -- All of the parts are in the name.
    apply mem_of_mem_trim
    rcases split : splitTypeName (trim name) with ⟨element, arguments, suffix⟩
    rw [← splitTypeName_text (trim name), split]
    cases arguments with
    | none =>
      -- The suffix is shown as written.
      rw [typeSegments_bare flags split, plainText_append, String.toList_append,
        toList_suffixSegments] at member
      rcases List.mem_append.mp member with inElement | inSuffix
      · simp [TypeNameParts.text, mem_of_mem_bareSegments foreign inElement]
      · simp [TypeNameParts.text, inSuffix]
    | some inside =>
      rw [typeSegments_generic flags split] at member
      simp only [plainText_append, plainText_mark, String.toList_append, toList_suffixSegments,
        List.mem_append] at member
      -- The two brackets are marks, so the character is in one of the three other parts.
      rcases member with (((inElement | opening) | inList) | closing) | inSuffix
      · simp [TypeNameParts.text, mem_of_mem_elementSegments inElement]
      · exact absurd (by simpa using opening) (ne_printerMark foreign '<' (by decide))
      · obtain ⟨argument, listed, inLine⟩ := exists_item_of_mem foreign inList
        have inArgument := ih inside (by rw [split]) argument listed inLine
        -- The argument itself is a stretch of the list.
        simp [TypeNameParts.text, (infix_of_mem_genericArguments listed).mem inArgument]
      · exact absurd (by simpa using closing) (ne_printerMark foreign '>' (by decide))
      · simp [TypeNameParts.text, inSuffix]

/-- A parameter is shown with characters of its texts and with marks of the printer. -/
theorem exists_text_of_mem_parameterSegments {parameter : Parameter}
    (member : c ∈ (plainText (parameterSegments flags parameter)).toList) :
    ∃ text ∈ parameter.texts, c ∈ text.toList := by
  -- What is shown of the type comes first, and what is shown of the name behind it.
  have space := ne_printerMark foreign ' ' (by decide)
  rw [parameterSegments_eq, plainText_append, String.toList_append] at member
  rcases List.mem_append.mp member with inType | inName
  · have typed := mem_of_mem_shown inType
    exact ⟨parameter.typeName, by simp [Parameter.texts], mem_of_mem_typeSegments foreign typed⟩
  · have shown := mem_of_mem_shown inName
    cases named : parameter.name with
    | none => simp [named, plainText] at shown
    | some name =>
      rw [named, Option.elim_some, plainText_append, String.toList_append] at shown
      -- In front of the name there may be a space.
      rcases List.mem_append.mp shown with inSpace | inName
      · have spaced := mem_of_mem_shown inSpace
        exact absurd (by simpa [plainText, Segment.space] using spaced) space
      · exact ⟨name, by simp [Parameter.texts, named], by simpa [plainText] using inName⟩

/-- A return type is shown with characters of its own and with marks of the printer. -/
theorem exists_text_of_mem_returnSegments {method : Method}
    (member : c ∈ (plainText (returnSegments flags method)).toList) :
    ∃ text, method.returnType = some text ∧ c ∈ text.toList := by
  -- Nothing but the space behind the type is put in.
  have space := ne_printerMark foreign ' ' (by decide)
  rw [returnSegments_eq] at member
  have shown := mem_of_mem_shown member
  cases returned : method.returnType with
  | none => simp [returned, plainText] at shown
  | some name =>
    rw [returned, Option.elim_some, plainText_append, String.toList_append] at shown
    rcases List.mem_append.mp shown with inType | inSpace
    · exact ⟨name, rfl, mem_of_mem_typeSegments foreign inType⟩
    · exact absurd (by simpa [plainText, Segment.space] using inSpace) space

/-- An owner is shown with characters of its own and with marks of the printer. -/
theorem mem_of_mem_ownerSegments {method : Method}
    (member : c ∈ (plainText (ownerSegments flags method)).toList) :
    c ∈ method.namespaceName.toList ∨ c ∈ method.declaringType.toList := by
  -- Both names are shown with all of their dots, and one more dot is put behind each.
  have dot := ne_printerMark foreign '.' (by decide)
  have declaring := mem_of_mem_shown member
  simp only [plainText_append, plainText_mark, String.toList_append, toList_dottedSegments,
    List.mem_append] at declaring
  rcases declaring with (inNamespace | inType) | inDot
  · have shown := mem_of_mem_shown inNamespace
    simp only [plainText_append, plainText_mark, String.toList_append, toList_dottedSegments,
      List.mem_append] at shown
    exact .inl (shown.resolve_right fun inDot => dot (by simpa using inDot))
  · exact .inr inType
  · exact absurd (by simpa using inDot) dot

/-- A signature is shown with characters of the texts of its method and with marks of the
printer. -/
theorem exists_text_of_mem_signatureSegments {method : Method}
    (member : c ∈ (plainText (signatureSegments flags method)).toList) :
    ∃ text ∈ method.texts, c ∈ text.toList := by
  -- Six parts make up the signature, and the two brackets among them are marks.
  have shape : signatureSegments flags method =
      returnSegments flags method ++ ownerSegments flags method ++ [nameSegment method] ++
        [.mark "("] ++ listSeparator.intercalate (method.parameters.map (parameterSegments flags)) ++
        [.mark ")"] := by
    simp [signatureSegments]
  simp only [shape, plainText_append, plainText_mark, String.toList_append, List.mem_append]
    at member
  rcases member with ((((inReturn | inOwner) | inName) | opening) | inParameters) | closing
  · obtain ⟨text, returned, inText⟩ := exists_text_of_mem_returnSegments foreign inReturn
    exact ⟨text, by simp [Method.texts, returned], inText⟩
  · cases mem_of_mem_ownerSegments foreign inOwner with
    | inl inNamespace => exact ⟨method.namespaceName, by simp [Method.texts], inNamespace⟩
    | inr inType => exact ⟨method.declaringType, by simp [Method.texts], inType⟩
  · cases mem_of_mem_nameSegment (by simpa [plainText] using inName) with
    | inl inType => exact ⟨method.declaringType, by simp [Method.texts], inType⟩
    | inr inName => exact ⟨method.name, by simp [Method.texts], inName⟩
  · exact absurd (by simpa using opening) (ne_printerMark foreign '(' (by decide))
  · obtain ⟨parameter, listed, inLine⟩ := exists_item_of_mem foreign inParameters
    obtain ⟨text, ofParameter, inText⟩ := exists_text_of_mem_parameterSegments foreign inLine
    have ofMethod : text ∈ method.parameters.flatMap Parameter.texts :=
      List.mem_flatMap.mpr ⟨parameter, listed, ofParameter⟩
    exact ⟨text, by simp [Method.texts, ofMethod], inText⟩
  · exact absurd (by simpa using closing) (ne_printerMark foreign ')' (by decide))

end

end BreakpointGlyph
