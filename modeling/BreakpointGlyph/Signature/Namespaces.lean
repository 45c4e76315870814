import BreakpointGlyph.Text.Classified

/-! Namespaces in a line of segments: each has a dot behind it, and both may be taken out. -/

namespace BreakpointGlyph

/-- Every namespace in a line has a dot right behind it. -/
def NamespacesDotted (line : List Segment) : Prop :=
  ∀ front segment rest, line = front ++ segment :: rest → segment.color = .namespaceName →
    rest.head? = some (.mark ".")

/-- A line without its namespaces and the dots right behind them. -/
def withoutNamespaces : List Segment → List Segment
  | [] => []
  | [last] => [last]
  | first :: second :: rest =>
    if first.color = .namespaceName ∧ second = .mark "." then withoutNamespaces rest
    else first :: withoutNamespaces (second :: rest)

/-- A line without namespaces, and the same line with namespaces put in, each with a dot. -/
inductive NamespacesAdded : List Segment → List Segment → Prop where
  | empty : NamespacesAdded [] []
  | keep {segment : Segment} {line fuller : List Segment} (other : segment.color ≠ .namespaceName) :
      NamespacesAdded line fuller → NamespacesAdded (segment :: line) (segment :: fuller)
  | add {name : String} {line fuller : List Segment} :
      NamespacesAdded line fuller →
        NamespacesAdded line (⟨.namespaceName, name⟩ :: .mark "." :: fuller)

end BreakpointGlyph
