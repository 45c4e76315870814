import BreakpointGlyph.Signature.Printer

/-! Calls of the printer of type names: a call for a name calls for each of its arguments, and is
open until all of these calls are over. -/

namespace BreakpointGlyph

/-- The arguments of a name, which has none if it has no list of them. -/
def nameArguments (name : List Char) : List (List Char) :=
  ((splitTypeName (trim name)).arguments.map genericArguments).getD []

/-- A name is called for in the course of another one if it is an argument of that one. -/
def CallsFor (name argument : List Char) : Prop :=
  argument ∈ nameArguments name

instance (name argument : List Char) : Decidable (CallsFor name argument) :=
  inferInstanceAs (Decidable (argument ∈ nameArguments name))

/-- A name as it is printed by its parts, given what is printed of its arguments. -/
def partsSegments (flags : SignatureFlags) (parts : TypeNameParts)
    (arguments : List (List Segment)) : List Segment :=
  match parts.arguments with
  | some _ =>
    elementSegments flags parts.element ++ [.mark "<"] ++ listSeparator.intercalate arguments ++
      [.mark ">"] ++ suffixSegments parts.suffix
  | none =>
    match shownKeyword? flags parts.element with
    | some keyword => ⟨.keyword, keyword⟩ :: suffixSegments parts.suffix
    | none => elementSegments flags parts.element ++ suffixSegments parts.suffix

/-- What is printed of a name if no more than some number of calls can be open at a time, the call
for the name itself among them; nothing if it takes more. -/
def typeSegmentsWithin (flags : SignatureFlags) : Nat → List Char → Option (List Segment)
  | 0, _ => none
  | calls + 1, name =>
    ((nameArguments name).mapM (typeSegmentsWithin flags calls)).map
      (partsSegments flags (splitTypeName (trim name)))

end BreakpointGlyph
