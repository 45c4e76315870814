import BreakpointGlyph.Location.Method
import BreakpointGlyph.Signature.Flags
import BreakpointGlyph.Signature.Keyword
import BreakpointGlyph.Signature.TypeName
import BreakpointGlyph.Text.Classified
import BreakpointGlyph.Text.Cut

/-! Signatures of methods as classified text, printed from metadata alone. -/

namespace BreakpointGlyph

/-- A dotted name: its parts in one color, with dots between them. -/
def dottedSegments (color : TextColor) (name : List Char) : List Segment :=
  ((name.splitOn '.').map (Segment.ofChars color)).intersperse (.mark ".")

/-- A comma and a space between two items of a list. -/
def listSeparator : List Segment :=
  [.mark ",", .space]

/-- The suffix of a type, which is shown as written where there is one. -/
def suffixSegments (suffix : List Char) : List Segment :=
  if suffix = [] then [] else [.ofChars .punctuation suffix]

/-- An element name: its namespace where namespaces are shown, then its last part. -/
def elementSegments (flags : SignatureFlags) (element : List Char) : List Segment :=
  match cutAtLast '.' element with
  | some (namespaceName, name) =>
    (if flags.namespaces then dottedSegments .namespaceName namespaceName ++ [.mark "."] else []) ++
      [.ofChars .typeName (stripArity name)]
  | none => [.ofChars .typeName (stripArity element)]

/-- The keyword that is shown for an element name without arguments, if there is one. -/
def shownKeyword? (flags : SignatureFlags) (element : List Char) : Option String :=
  if flags.typeKeywords then typeKeyword? element else none

/-- A type name: its element, its arguments printed the same way, and its suffix. -/
def typeSegments (flags : SignatureFlags) (name : List Char) : List Segment :=
  let parts := splitTypeName (trim name)
  match cut : parts.arguments with
  | some list =>
    let arguments := (genericArguments list).attach.map fun ⟨argument, member⟩ =>
      -- An argument stands between the brackets of the trimmed name, so it is shorter.
      have := length_of_mem_genericArguments member
      have := length_of_splitTypeName cut
      have := length_trim_le name
      typeSegments flags argument
    elementSegments flags parts.element ++ [.mark "<"] ++ listSeparator.intercalate arguments ++
      [.mark ">"] ++ suffixSegments parts.suffix
  | none =>
    match shownKeyword? flags parts.element with
    | some keyword => ⟨.keyword, keyword⟩ :: suffixSegments parts.suffix
    | none => elementSegments flags parts.element ++ suffixSegments parts.suffix
termination_by name.length

/-- A type name is printed by its parts, the arguments being type names themselves. -/
theorem typeSegments_eq (flags : SignatureFlags) (name : List Char) :
    typeSegments flags name =
      let parts := splitTypeName (trim name)
      match parts.arguments with
      | some list =>
        elementSegments flags parts.element ++ [.mark "<"] ++
          listSeparator.intercalate ((genericArguments list).map (typeSegments flags)) ++
          [.mark ">"] ++ suffixSegments parts.suffix
      | none =>
        match shownKeyword? flags parts.element with
        | some keyword => ⟨.keyword, keyword⟩ :: suffixSegments parts.suffix
        | none => elementSegments flags parts.element ++ suffixSegments parts.suffix := by
  -- The membership that the recursion carries does not change what is printed.
  rw [typeSegments]
  split <;> rename_i cut
  · simp [cut]
  · simp [cut]

/-- The return type and a space, where return types are shown and there is one. -/
def returnSegments (flags : SignatureFlags) (method : Method) : List Segment :=
  match flags.returnTypes, method.returnType with
  | true, some returnType => typeSegments flags returnType.toList ++ [.space]
  | _, _ => []

/-- The namespace and the declaring type, each followed by a dot, where owners are shown. -/
def ownerSegments (flags : SignatureFlags) (method : Method) : List Segment :=
  let namespaceSegments :=
    if flags.namespaces && method.namespaceName != "" then
      dottedSegments .namespaceName method.namespaceName.toList ++ [.mark "."]
    else []
  if flags.ownerTypes then
    namespaceSegments ++ dottedSegments .typeName method.declaringType.toList ++ [.mark "."]
  else []

/-- The part of a dotted name after its last dot. -/
def lastDotted (name : List Char) : List Char :=
  match cutAtLast '.' name with
  | some (_, last) => last
  | none => name

/-- The name of a method; a constructor goes by the name of its type. -/
def nameSegment (method : Method) : Segment :=
  if method.isConstructor then .ofChars .typeName (lastDotted method.declaringType.toList)
  else ⟨.methodName, method.name⟩

/-- A parameter: its type and its name, as far as they are shown, with a space between them. -/
def parameterSegments (flags : SignatureFlags) (parameter : Parameter) : List Segment :=
  let typeSide := if flags.parameterTypes then typeSegments flags parameter.typeName.toList else []
  match flags.parameterNames, parameter.name with
  | true, some name =>
    typeSide ++ (if flags.parameterTypes then [.space] else []) ++ [⟨.parameterName, name⟩]
  | _, _ => typeSide

/-- The signature of a method. -/
def signatureSegments (flags : SignatureFlags) (method : Method) : List Segment :=
  returnSegments flags method ++ ownerSegments flags method ++ [nameSegment method, .mark "("] ++
    listSeparator.intercalate (method.parameters.map (parameterSegments flags)) ++ [.mark ")"]

end BreakpointGlyph
