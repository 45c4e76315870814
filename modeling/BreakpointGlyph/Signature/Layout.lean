import BreakpointGlyph.Signature.Printer

/-! The layout of a signature: which parts it has under which flags, and in what order. -/

namespace BreakpointGlyph

/-- A dotted name in one color: its components, which have no dots in them, with a dot between two
of them. -/
inductive DottedLine (color : TextColor) : List Char → List Segment → Prop where
  | last {component : List Char} (undotted : '.' ∉ component) :
      DottedLine color component [.ofChars color component]
  | more {component rest : List Char} {line : List Segment} (undotted : '.' ∉ component) :
      DottedLine color rest line →
        DottedLine color (component ++ '.' :: rest) (.ofChars color component :: .mark "." :: line)

/-- The last component of a dotted name: all of it, or what is behind its last dot. -/
inductive LastComponent : List Char → List Char → Prop where
  | whole {name : List Char} (undotted : '.' ∉ name) : LastComponent name name
  | behind {front last : List Char} (undotted : '.' ∉ last) :
      LastComponent (front ++ '.' :: last) last

/-- The return type and a space, exactly where return types are wanted and there is one. -/
inductive ReturnLine (flags : SignatureFlags) (method : Method) : List Segment → Prop where
  | shown {name : String} (wanted : flags.returnTypes = true)
      (given : method.returnType = some name) :
      ReturnLine flags method (typeSegments flags name.toList ++ [.space])
  | hidden (absent : flags.returnTypes = true → method.returnType = none) :
      ReturnLine flags method []

/-- The namespace and a dot, exactly where namespaces are wanted and there is one. -/
inductive NamespaceLine (flags : SignatureFlags) (method : Method) : List Segment → Prop where
  | shown {line : List Segment} (wanted : flags.namespaces = true)
      (given : method.namespaceName ≠ "")
      (dotted : DottedLine .namespaceName method.namespaceName.toList line) :
      NamespaceLine flags method (line ++ [.mark "."])
  | hidden (absent : flags.namespaces = true → method.namespaceName = "") :
      NamespaceLine flags method []

/-- The namespace and the declaring type, with a dot behind it, exactly where owners are wanted. -/
inductive OwnerLine (flags : SignatureFlags) (method : Method) : List Segment → Prop where
  | shown {outer line : List Segment} (wanted : flags.ownerTypes = true)
      (namespaces : NamespaceLine flags method outer)
      (dotted : DottedLine .typeName method.declaringType.toList line) :
      OwnerLine flags method (outer ++ line ++ [.mark "."])
  | hidden (unwanted : flags.ownerTypes = false) : OwnerLine flags method []

/-- The name of a method, which for a constructor is the last component of its declaring type. -/
inductive NameLine (method : Method) : Segment → Prop where
  | constructor {last : List Char} (reserved : method.name = ".ctor" ∨ method.name = ".cctor")
      (component : LastComponent method.declaringType.toList last) :
      NameLine method (.ofChars .typeName last)
  | other (unreserved : ¬(method.name = ".ctor" ∨ method.name = ".cctor")) :
      NameLine method ⟨.methodName, method.name⟩

/-- Groups in their order, with one comma and one space between two of them, empty or not. -/
inductive GroupsLine : List (List Segment) → List Segment → Prop where
  | none : GroupsLine [] []
  | last {group : List Segment} : GroupsLine [group] group
  | more {first second : List Segment} {rest : List (List Segment)} {line : List Segment} :
      GroupsLine (second :: rest) line →
        GroupsLine (first :: second :: rest) (first ++ [.mark ",", .space] ++ line)

/-- A signature: the return type, the owner, the name, and in parentheses a group for each of the
parameters, which depends on that parameter and the flags alone. -/
inductive SignatureLine (flags : SignatureFlags) (method : Method) : List Segment → Prop where
  | parts {returnType owner groups : List Segment} {name : Segment}
      (returned : ReturnLine flags method returnType) (owned : OwnerLine flags method owner)
      (named : NameLine method name)
      (grouped : GroupsLine (method.parameters.map (parameterSegments flags)) groups) :
      SignatureLine flags method
        (returnType ++ owner ++ [name, .mark "("] ++ groups ++ [.mark ")"])

end BreakpointGlyph
