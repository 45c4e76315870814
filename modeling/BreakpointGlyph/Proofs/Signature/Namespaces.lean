import BreakpointGlyph.Proofs.Signature.Flags
import BreakpointGlyph.Signature.Namespaces

/-! Showing namespaces puts them into a signature, each with a dot, and changes nothing else. -/

namespace BreakpointGlyph

/-! Lines with namespaces put in -/

/-- A segment that is no namespace stays where the namespaces are taken out. -/
theorem withoutNamespaces_cons {segment : Segment} (other : segment.color ≠ .namespaceName)
    (rest : List Segment) :
    withoutNamespaces (segment :: rest) = segment :: withoutNamespaces rest := by
  -- Nothing is looked up behind it, whether there is a second segment or not.
  cases rest with
  | nil => rfl
  | cons second rest => simp [withoutNamespaces, other]

/-- A namespace goes with the dot behind it. -/
theorem withoutNamespaces_dotted (name : String) (rest : List Segment) :
    withoutNamespaces (⟨.namespaceName, name⟩ :: .mark "." :: rest) = withoutNamespaces rest := by
  simp [withoutNamespaces]

/-- What has been put in can be taken out again. -/
theorem NamespacesAdded.withoutNamespaces_eq {line fuller : List Segment}
    (added : NamespacesAdded line fuller) : withoutNamespaces fuller = line := by
  induction added with
  | empty => rfl
  | keep other _ ih => rw [withoutNamespaces_cons other, ih]
  | add _ ih => rw [withoutNamespaces_dotted, ih]

/-- A segment in front keeps the namespaces of a line dotted, if it is none or has a dot there. -/
theorem NamespacesDotted.cons {segment : Segment} {line : List Segment}
    (first : segment.color = .namespaceName → line.head? = some (.mark "."))
    (dotted : NamespacesDotted line) : NamespacesDotted (segment :: line) := by
  -- A namespace of the longer line is the segment in front or one of the line behind it.
  intro front found rest shape named
  cases front with
  | nil =>
    obtain ⟨rfl, rfl⟩ := List.cons.inj shape
    exact first named
  | cons head front => exact dotted front found rest (List.cons.inj shape).2 named

/-- All namespaces that have been put in have a dot. -/
theorem NamespacesAdded.dotted {line fuller : List Segment}
    (added : NamespacesAdded line fuller) : NamespacesDotted fuller := by
  induction added with
  | empty =>
    intro front segment rest shape
    simp at shape
  | keep other _ ih => exact ih.cons fun named => absurd named other
  | add _ ih =>
    -- The dot itself is no namespace.
    have unnamed : (Segment.mark ".").color ≠ .namespaceName := by simp [Segment.mark]
    exact (ih.cons fun named => absurd named unnamed).cons fun _ => rfl

/-- Lines with namespaces put in may be put together. -/
theorem compositional_namespacesAdded : Compositional NamespacesAdded where
  plain {line} plain := by
    induction line with
    | nil => exact .empty
    | cons segment rest ih =>
      exact .keep (plain segment (by simp)) (ih fun other member => plain other (by simp [member]))
  append front back := by
    induction front with
    | empty => exact back
    | keep other _ ih => exact .keep other ih
    | add _ ih => exact .add ih

/-- A dotted name of namespaces, with a dot behind it, is all put in. -/
theorem namespacesAdded_dotted (name : List Char) :
    NamespacesAdded [] (dottedSegments .namespaceName name ++ [.mark "."]) := by
  -- There is a dot behind each of the parts, the last one included.
  have general : ∀ parts : List (List Char), parts ≠ [] →
      NamespacesAdded []
        ((parts.map (Segment.ofChars .namespaceName)).intersperse (.mark ".") ++ [.mark "."]) := by
    intro parts
    induction parts with
    | nil => exact fun nonempty => absurd rfl nonempty
    | cons first rest ih =>
      intro _
      cases rest with
      | nil => exact .add .empty
      | cons second others => exact .add (ih (by simp))
  exact general _ (List.splitOn_ne_nil '.' name)

/-- A part that is shown under the same flag on both sides keeps its namespaces put in. -/
theorem namespacesAdded_under (shown : Bool) : RelatedUnder NamespacesAdded shown shown :=
  RelatedUnder.same .empty shown

/-! Signatures with and without namespaces -/

/-- Showing namespaces is an addition in place: each namespace that is shown has a dot right behind
it, and without all of them and their dots a signature is what is written where namespaces are not
shown. -/
theorem signatureSegments_namespaces (flags : SignatureFlags) (method : Method) :
    NamespacesDotted (signatureSegments (flags.withNamespaces true) method) ∧
      withoutNamespaces (signatureSegments (flags.withNamespaces true) method) =
        signatureSegments (flags.withNamespaces false) method := by
  -- All flags but the one for namespaces show the same parts on both sides.
  have parts : RelatedParts NamespacesAdded (flags.withNamespaces false)
      (flags.withNamespaces true) :=
    { compositional_namespacesAdded with
      parameterTypes := namespacesAdded_under flags.parameterTypes
      parameterNames := namespacesAdded_under flags.parameterNames
      ownerTypes := namespacesAdded_under flags.ownerTypes
      returnTypes := namespacesAdded_under flags.returnTypes
      namespaces := namespacesAdded_dotted
      typeKeywords := rfl }
  have added := parts.signature method
  exact ⟨added.dotted, added.withoutNamespaces_eq⟩

end BreakpointGlyph
