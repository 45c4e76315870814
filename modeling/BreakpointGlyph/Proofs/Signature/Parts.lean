import BreakpointGlyph.Signature.Printer

/-! Signatures of one method under two sets of flags, compared part by part. -/

namespace BreakpointGlyph

/-- Lines that are related stay so where the one is shown under a flag and the other under a
second flag. -/
def RelatedUnder (related : List Segment → List Segment → Prop) (shown wider : Bool) : Prop :=
  ∀ {line fuller : List Segment}, related line fuller →
    related (if shown then line else []) (if wider then fuller else [])

/-- A part that is shown under the same flag on both sides stays related. -/
theorem RelatedUnder.same {related : List Segment → List Segment → Prop} (empty : related [] [])
    (shown : Bool) : RelatedUnder related shown shown := by
  intro line fuller parts
  cases shown with
  | false => exact empty
  | true => exact parts

/-- An element name without arguments: its keyword where that is shown, and the name elsewhere. -/
def bareSegments (flags : SignatureFlags) (element : List Char) : List Segment :=
  match shownKeyword? flags element with
  | some keyword => [⟨.keyword, keyword⟩]
  | none => elementSegments flags element

/-- A name without arguments is its keyword or its element name, and its suffix. -/
theorem typeSegments_bare (flags : SignatureFlags) {name element suffix : List Char}
    (split : splitTypeName (trim name) = ⟨element, none, suffix⟩) :
    typeSegments flags name = bareSegments flags element ++ suffixSegments suffix := by
  rw [typeSegments_eq, split, bareSegments]
  dsimp only
  cases shownKeyword? flags element <;> rfl

/-- A name with arguments is its element name, its arguments in brackets, and its suffix. -/
theorem typeSegments_generic (flags : SignatureFlags) {name element inside suffix : List Char}
    (split : splitTypeName (trim name) = ⟨element, some inside, suffix⟩) :
    typeSegments flags name =
      elementSegments flags element ++ [.mark "<"] ++
        listSeparator.intercalate ((genericArguments inside).map (typeSegments flags)) ++
        [.mark ">"] ++ suffixSegments suffix := by
  rw [typeSegments_eq, split]

/-- The flag for return types decides about all that is shown of one, the space behind it
included. -/
theorem returnSegments_eq (flags : SignatureFlags) (method : Method) :
    returnSegments flags method =
      if flags.returnTypes then
        method.returnType.elim [] fun name => typeSegments flags name.toList ++ [.space]
      else [] := by
  cases shown : flags.returnTypes <;> cases named : method.returnType <;>
    simp [returnSegments, shown, named]

/-- What is shown of the name of a parameter comes behind what is shown of its type. -/
theorem parameterSegments_eq (flags : SignatureFlags) (parameter : Parameter) :
    parameterSegments flags parameter =
      (if flags.parameterTypes then typeSegments flags parameter.typeName.toList else []) ++
        if flags.parameterNames then
          parameter.name.elim [] fun name =>
            (if flags.parameterTypes then [.space] else []) ++ [⟨.parameterName, name⟩]
        else [] := by
  cases shown : flags.parameterNames <;> cases named : parameter.name <;>
    simp [parameterSegments, shown, named]

/-- A relation of lines that may be put together, under two sets of flags: whatever segments do not
depend on the flags are related to themselves, and whatever parts do are related to each other. -/
structure Comparison (related : List Segment → List Segment → Prop)
    (flags more : SignatureFlags) : Prop where
  empty : related [] []
  single : ∀ {segment : Segment}, segment.color ≠ .namespaceName → segment.color ≠ .keyword →
    related [segment] [segment]
  append : ∀ {front fuller back fullerBack : List Segment}, related front fuller →
    related back fullerBack → related (front ++ back) (fuller ++ fullerBack)
  parameterTypes : RelatedUnder related flags.parameterTypes more.parameterTypes
  parameterNames : RelatedUnder related flags.parameterNames more.parameterNames
  ownerTypes : RelatedUnder related flags.ownerTypes more.ownerTypes
  returnTypes : RelatedUnder related flags.returnTypes more.returnTypes
  namespaces : ∀ name : List Char,
    related (if flags.namespaces then dottedSegments .namespaceName name ++ [.mark "."] else [])
      (if more.namespaces then dottedSegments .namespaceName name ++ [.mark "."] else [])
  bare : ∀ element : List Char,
    related (elementSegments flags element) (elementSegments more element) →
      related (bareSegments flags element) (bareSegments more element)

variable {related : List Segment → List Segment → Prop} {flags more : SignatureFlags}

/-- Punctuation is related to itself. -/
theorem Comparison.mark (comparison : Comparison related flags more) (text : String) :
    related [.mark text] [.mark text] :=
  comparison.single (by simp [Segment.mark]) (by simp [Segment.mark])

/-- The space between two parts is related to itself. -/
theorem Comparison.space (comparison : Comparison related flags more) :
    related [.space] [.space] :=
  comparison.single (by simp [Segment.space]) (by simp [Segment.space])

/-- A dotted name of a type is related to itself. -/
theorem Comparison.dottedType (comparison : Comparison related flags more) (name : List Char) :
    related (dottedSegments .typeName name) (dottedSegments .typeName name) := by
  -- The parts have the color of types, and the dots between them are punctuation.
  have general : ∀ parts : List (List Char),
      let line := (parts.map (Segment.ofChars .typeName)).intersperse (.mark ".")
      related line line := by
    intro parts
    induction parts with
    | nil => exact comparison.empty
    | cons first rest ih =>
      have head : related [.ofChars .typeName first] [.ofChars .typeName first] :=
        comparison.single (by simp [Segment.ofChars]) (by simp [Segment.ofChars])
      cases rest with
      | nil => exact head
      | cons second others =>
        exact comparison.append (comparison.append head (comparison.mark ".")) ih
  exact general (name.splitOn '.')

/-- A suffix is related to itself. -/
theorem Comparison.suffix (comparison : Comparison related flags more) (suffix : List Char) :
    related (suffixSegments suffix) (suffixSegments suffix) := by
  -- It is one segment of punctuation, or nothing at all.
  unfold suffixSegments
  split
  · exact comparison.empty
  · exact comparison.single (by simp [Segment.ofChars]) (by simp [Segment.ofChars])

/-- Lists are related if their items are. -/
theorem Comparison.list {α : Type} (comparison : Comparison related flags more) {items : List α}
    {line fuller : α → List Segment} (each : ∀ item ∈ items, related (line item) (fuller item)) :
    related (listSeparator.intercalate (items.map line))
      (listSeparator.intercalate (items.map fuller)) := by
  induction items with
  | nil => exact comparison.empty
  | cons first rest ih =>
    have head := each first (by simp)
    have tail := ih fun item member => each item (by simp [member])
    cases rest with
    | nil => simpa using head
    | cons second others =>
      -- Between two items there is the same separator on both sides.
      have separator : related listSeparator listSeparator :=
        comparison.append (comparison.mark ",") comparison.space
      simp only [List.map_cons, List.intercalate_cons_cons] at tail ⊢
      exact comparison.append (comparison.append head separator) tail

/-- Elements are related, as their namespaces are. -/
theorem Comparison.element (comparison : Comparison related flags more) (element : List Char) :
    related (elementSegments flags element) (elementSegments more element) := by
  have last : ∀ name, related [.ofChars .typeName name] [.ofChars .typeName name] :=
    fun _ => comparison.single (by simp [Segment.ofChars]) (by simp [Segment.ofChars])
  -- The last part of a dotted name is shown under all flags.
  unfold elementSegments
  cases cutAtLast '.' element with
  | none => exact last _
  | some cut => exact comparison.append (comparison.namespaces cut.1) (last _)

/-- Type names are related, as their elements are. -/
theorem Comparison.type (comparison : Comparison related flags more) (name : List Char) :
    related (typeSegments flags name) (typeSegments more name) := by
  -- The arguments of a name are type names themselves, and related by the induction.
  induction name using typeName_induct with
  | step name ih =>
    rcases split : splitTypeName (trim name) with ⟨element, arguments, suffix⟩
    cases arguments with
    | none =>
      rw [typeSegments_bare flags split, typeSegments_bare more split]
      have head := comparison.bare element (comparison.element element)
      exact comparison.append head (comparison.suffix suffix)
    | some inside =>
      rw [typeSegments_generic flags split, typeSegments_generic more split]
      have arguments := comparison.list (ih inside (by rw [split]))
      have opened := comparison.append (comparison.element element) (comparison.mark "<")
      have closed := comparison.append (comparison.append opened arguments) (comparison.mark ">")
      exact comparison.append closed (comparison.suffix suffix)

/-- Return types are related, as type names are. -/
theorem Comparison.returnType (comparison : Comparison related flags more) (method : Method) :
    related (returnSegments flags method) (returnSegments more method) := by
  rw [returnSegments_eq, returnSegments_eq]
  refine comparison.returnTypes ?_
  cases method.returnType with
  | none => exact comparison.empty
  | some name => exact comparison.append (comparison.type name.toList) comparison.space

/-- Owners are related, as namespaces are. -/
theorem Comparison.owner (comparison : Comparison related flags more) (method : Method) :
    related (ownerSegments flags method) (ownerSegments more method) := by
  have declaring := comparison.dottedType method.declaringType.toList
  refine comparison.ownerTypes
    (comparison.append (comparison.append ?_ declaring) (comparison.mark "."))
  -- A method without a namespace has none to be shown.
  by_cases named : method.namespaceName = ""
  · simpa [named] using comparison.empty
  · simpa [named] using comparison.namespaces method.namespaceName.toList

/-- Parameters are related, as type names are. -/
theorem Comparison.parameter (comparison : Comparison related flags more) (parameter : Parameter) :
    related (parameterSegments flags parameter) (parameterSegments more parameter) := by
  rw [parameterSegments_eq, parameterSegments_eq]
  refine comparison.append (comparison.parameterTypes (comparison.type _))
    (comparison.parameterNames ?_)
  cases parameter.name with
  | none => exact comparison.empty
  | some name =>
    have shown : related [⟨.parameterName, name⟩] [⟨.parameterName, name⟩] :=
      comparison.single (by simp) (by simp)
    exact comparison.append (comparison.parameterTypes comparison.space) shown

/-- Signatures are related, as all of their parts are. -/
theorem Comparison.signature (comparison : Comparison related flags more) (method : Method) :
    related (signatureSegments flags method) (signatureSegments more method) := by
  -- The name is the same whatever is shown around it.
  have name : related [nameSegment method] [nameSegment method] := by
    unfold nameSegment
    split <;> exact comparison.single (by simp [Segment.ofChars]) (by simp [Segment.ofChars])
  have opened := comparison.append
    (comparison.append (comparison.returnType method) (comparison.owner method))
    (comparison.append name (comparison.mark "("))
  have parameters : related
      (listSeparator.intercalate (method.parameters.map (parameterSegments flags)))
      (listSeparator.intercalate (method.parameters.map (parameterSegments more))) :=
    comparison.list fun parameter _ => comparison.parameter parameter
  exact comparison.append (comparison.append opened parameters) (comparison.mark ")")

end BreakpointGlyph
