import BreakpointGlyph.Proofs.Signature.Parts
import BreakpointGlyph.Proofs.Signature.TypeText
import Mathlib.Logic.ExistsUnique

/-! Keywords shorten the names of types in a signature, and can be spelled out again. -/

namespace BreakpointGlyph

/-! The table of keywords -/

/-- No two types have the same keyword. -/
theorem typeKeywords_inj : ∀ entry ∈ typeKeywords, ∀ other ∈ typeKeywords,
    entry.2 = other.2 → entry = other := by
  decide +kernel

/-- A keyword stands for the type that has it. -/
theorem keywordType?_eq_some {name keyword : String} (known : (name, keyword) ∈ typeKeywords) :
    keywordType? keyword = some name := by
  cases found : typeKeywords.find? fun entry => entry.2 == keyword with
  | none =>
    -- The entry itself is one that the search would stop at.
    have missed := List.find?_eq_none.mp found _ known
    simp at missed
  | some entry =>
    have member := List.mem_of_find?_eq_some found
    have same : entry.2 = keyword := by simpa using List.find?_some found
    -- There is no other entry with this keyword.
    have named := typeKeywords_inj entry member _ known same
    simp [keywordType?, found, named]

/-- A name that has a keyword is the name of a type in `System`, with that keyword. -/
theorem typeKeyword?_eq_some {element : List Char} {keyword : String}
    (found : typeKeyword? element = some keyword) :
    ∃ name, (name, keyword) ∈ typeKeywords ∧ element = ("System." ++ name).toList := by
  obtain ⟨entry, located, rfl⟩ := Option.map_eq_some_iff.mp found
  have same := List.find?_some located
  exact ⟨entry.1, List.mem_of_find?_eq_some located, (eq_of_beq same).symm⟩

/-- A type in `System` is written out as it is where its keyword is not shown. -/
theorem elementSegments_system (flags : SignatureFlags) {name keyword : String}
    (known : (name, keyword) ∈ typeKeywords) :
    elementSegments flags ("System." ++ name).toList =
      systemTypeSegments flags.namespaces name := by
  -- The name is cut behind `System`, and there is no arity to be taken from it.
  obtain ⟨cut, noArity⟩ := typeKeywords_cut _ known
  have whole := stripArity_eq_self_iff.mpr noArity
  have system : dottedSegments .namespaceName "System".toList = [⟨.namespaceName, "System"⟩] := by
    decide +kernel
  simp only [elementSegments, cut, whole, system, systemTypeSegments]
  simp [Segment.ofChars]

/-! Lines with keywords shown -/

/-- A segment that is no keyword is spelled as it is. -/
theorem withoutKeywords_cons {namespaces : Bool} {segment : Segment}
    (other : segment.color ≠ .keyword) (rest : List Segment) :
    withoutKeywords namespaces (segment :: rest) = segment :: withoutKeywords namespaces rest := by
  have same : segment.spelledOut namespaces = [segment] := by
    unfold Segment.spelledOut
    split
    · contradiction
    · rfl
  rw [withoutKeywords, List.flatMap_cons, same]
  rfl

/-- What has been shortened can be spelled out again. -/
theorem KeywordsShown.withoutKeywords_eq {namespaces : Bool} {line shorter : List Segment}
    (shown : KeywordsShown namespaces line shorter) :
    withoutKeywords namespaces shorter = line := by
  -- Each segment of the shorter line gives back those that it stands for.
  induction shown with
  | empty => rfl
  | keep other _ ih => rw [withoutKeywords_cons other, ih]
  | shorten known _ ih =>
    rw [← ih, withoutKeywords, List.flatMap_cons, Segment.spelledOut, keywordType?_eq_some known]
    rfl

/-- Every keyword that is shown belongs to one type. -/
theorem KeywordsShown.existsUnique {namespaces : Bool} {line shorter : List Segment}
    (shown : KeywordsShown namespaces line shorter) :
    ∀ segment ∈ shorter, segment.color = .keyword →
      ∃! name, (name, segment.text) ∈ typeKeywords := by
  induction shown with
  | empty => simp
  | keep other _ ih =>
    intro segment member keyword
    rcases List.mem_cons.mp member with rfl | member
    · exact absurd keyword other
    · exact ih segment member keyword
  | @shorten name keyword _ _ known _ ih =>
    intro segment member colored
    rcases List.mem_cons.mp member with rfl | member
    · -- Another type with the same keyword would be the same type.
      refine ⟨name, known, fun other listed => ?_⟩
      exact congrArg Prod.fst (typeKeywords_inj _ listed _ known rfl)
    · exact ih segment member colored

/-- A line without keywords is its own shorter form. -/
theorem KeywordsShown.plain {namespaces : Bool} {line : List Segment}
    (plain : ∀ segment ∈ line, segment.color ≠ .keyword) :
    KeywordsShown namespaces line line := by
  induction line with
  | nil => exact .empty
  | cons segment rest ih =>
    exact .keep (plain segment (by simp)) (ih fun other member => plain other (by simp [member]))

/-- Lines with keywords shown may be put together. -/
theorem KeywordsShown.append {namespaces : Bool}
    {front shorterFront back shorterBack : List Segment}
    (first : KeywordsShown namespaces front shorterFront)
    (second : KeywordsShown namespaces back shorterBack) :
    KeywordsShown namespaces (front ++ back) (shorterFront ++ shorterBack) := by
  induction first with
  | empty => exact second
  | keep other _ ih => exact .keep other ih
  | shorten known _ ih =>
    rw [List.append_assoc]
    exact .shorten known ih

/-- No part of a dotted name is a keyword, unless all of them are. -/
theorem color_of_mem_dottedSegments {color : TextColor} {name : List Char} {segment : Segment}
    (member : segment ∈ dottedSegments color name) :
    segment.color = color ∨ segment.color = .punctuation := by
  -- Each segment is one of the parts or one of the dots between them.
  have general : ∀ parts : List (List Char),
      segment ∈ (parts.map (Segment.ofChars color)).intersperse (.mark ".") →
        segment.color = color ∨ segment.color = .punctuation := by
    intro parts
    induction parts with
    | nil => simp
    | cons first rest ih =>
      cases rest with
      | nil => simp +contextual [Segment.ofChars]
      | cons second others =>
        simp only [List.map_cons, List.intersperse_cons_cons, List.mem_cons]
        rintro (rfl | rfl | later)
        · exact .inl rfl
        · exact .inr rfl
        · exact ih later
  exact general _ member

/-- Namespaces are the same whether keywords are shown or not. -/
theorem keywordsShown_dotted (namespaces : Bool) (name : List Char) :
    KeywordsShown namespaces (dottedSegments .namespaceName name ++ [.mark "."])
      (dottedSegments .namespaceName name ++ [.mark "."]) := by
  -- Neither the parts of a namespace nor its dots are keywords.
  refine .plain fun segment member => ?_
  rcases List.mem_append.mp member with part | dot
  · rcases color_of_mem_dottedSegments part with color | color <;> simp [color]
  · simp_all [Segment.mark]

/-- An element with a keyword is the type that the keyword stands for. -/
theorem keywordsShown_bare (flags : SignatureFlags) {element : List Char}
    (names : KeywordsShown flags.namespaces
      (elementSegments (flags.withTypeKeywords false) element)
      (elementSegments (flags.withTypeKeywords true) element)) :
    KeywordsShown flags.namespaces (bareSegments (flags.withTypeKeywords false) element)
      (bareSegments (flags.withTypeKeywords true) element) := by
  have spelled : shownKeyword? (flags.withTypeKeywords false) element = none := rfl
  have shown : shownKeyword? (flags.withTypeKeywords true) element = typeKeyword? element := rfl
  rw [bareSegments, bareSegments, spelled, shown]
  cases found : typeKeyword? element with
  | none => exact names
  | some keyword =>
    -- The keyword belongs to a type in `System`, whose name is written out on the other side.
    obtain ⟨name, known, rfl⟩ := typeKeyword?_eq_some found
    have long := elementSegments_system (flags.withTypeKeywords false) known
    have short : KeywordsShown flags.namespaces (systemTypeSegments flags.namespaces name ++ [])
        [⟨.keyword, keyword⟩] := .shorten known .empty
    rw [List.append_nil] at short
    exact long ▸ short

/-! Signatures with and without keywords -/

/-- Showing keywords loses nothing: each keyword in a signature belongs to one type, and with all of
them spelled out, each as that type in `System`, a signature is what is written where keywords are
not shown. -/
theorem signatureSegments_keywords (flags : SignatureFlags) (method : Method) :
    (∀ segment ∈ signatureSegments (flags.withTypeKeywords true) method,
        segment.color = .keyword → ∃! name, (name, segment.text) ∈ typeKeywords) ∧
      withoutKeywords flags.namespaces (signatureSegments (flags.withTypeKeywords true) method) =
        signatureSegments (flags.withTypeKeywords false) method := by
  -- All flags but the one for keywords show the same parts on both sides.
  have comparison : Comparison (KeywordsShown flags.namespaces) (flags.withTypeKeywords false)
      (flags.withTypeKeywords true) :=
    { empty := .empty
      single := fun _ other => .keep other .empty
      append := .append
      parameterTypes := RelatedUnder.same .empty flags.parameterTypes
      parameterNames := RelatedUnder.same .empty flags.parameterNames
      ownerTypes := RelatedUnder.same .empty flags.ownerTypes
      returnTypes := RelatedUnder.same .empty flags.returnTypes
      namespaces := fun name =>
        RelatedUnder.same .empty flags.namespaces (keywordsShown_dotted flags.namespaces name)
      bare := fun _ => keywordsShown_bare flags }
  have shown := comparison.signature method
  exact ⟨shown.existsUnique, shown.withoutKeywords_eq⟩

/-- A keyword with a suffix inside of a list is spelled out in its place, and a name that is nearly
one of a well-known type has been spelled out all along. -/
theorem signatureSegments_keywords_pointer :
    let method : Method :=
      ⟨⟨.ofFile "App.dll", ⟨0x06000001⟩⟩, "", "P", "M",
        [⟨"D<System.Int32*,System.Int>", none⟩], none⟩
    let flags : SignatureFlags := ⟨true, false, false, false, true, true⟩
    let line := signatureSegments (flags.withTypeKeywords true) method
    let keyword : Segment := ⟨.keyword, "int"⟩
    let dot : Segment := .mark "."
    keyword ∈ line ∧ (∃! name, (name, keyword.text) ∈ typeKeywords) ∧
      withoutKeywords true line =
        [⟨.methodName, "M"⟩, .mark "(", ⟨.typeName, "D"⟩, .mark "<", ⟨.namespaceName, "System"⟩, dot,
          ⟨.typeName, "Int32"⟩, .mark "*", .mark ",", .space, ⟨.namespaceName, "System"⟩, dot,
          ⟨.typeName, "Int"⟩, .mark ">", .mark ")"] := by
  intro method flags line keyword dot
  have shown : keyword ∈ line := by decide +kernel
  obtain ⟨unique, spelled⟩ := signatureSegments_keywords flags method
  refine ⟨shown, unique keyword shown rfl, spelled.trans ?_⟩
  decide +kernel

end BreakpointGlyph
