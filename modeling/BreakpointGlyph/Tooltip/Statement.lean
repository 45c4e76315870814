import BreakpointGlyph.Signature.Decompiler

/-! Decompiled documents know which method's statement stands at an IL offset. -/

namespace BreakpointGlyph

/-- A statement of a method, with the first and the last IL offset that it covers. -/
structure MethodStatement where
  method : Method
  first : UInt32
  last : UInt32
deriving DecidableEq, Repr

/-- A statement covers the offsets from its first to its last, both included. -/
def MethodStatement.contains (statement : MethodStatement) (ilOffset : UInt32) : Bool :=
  statement.first ≤ ilOffset && ilOffset ≤ statement.last

/-- A statement answers for an offset of its own method that it covers. -/
def MethodStatement.answers (statement : MethodStatement) (method : MethodId) (ilOffset : UInt32) :
    Bool :=
  statement.method.id == method && statement.contains ilOffset

/-- The statements of a document in the order of their insertion, and its own decompiler. -/
structure StatementMap where
  statements : List MethodStatement := []
  decompiler : Option Decompiler := none

/-- Adds a statement after those already there. -/
def StatementMap.insert (map : StatementMap) (statement : MethodStatement) : StatementMap :=
  ⟨map.statements ++ [statement], map.decompiler⟩

/-- Binds a decompiler, in place of an earlier one. -/
def StatementMap.withDecompiler (map : StatementMap) (decompiler : Decompiler) : StatementMap :=
  ⟨map.statements, some decompiler⟩

/-- The number of statements. -/
def StatementMap.size (map : StatementMap) : Nat :=
  map.statements.length

/-- The earliest statement that answers for an offset. -/
def StatementMap.find? (map : StatementMap) (method : MethodId) (ilOffset : UInt32) :
    Option MethodStatement :=
  map.statements.find? (·.answers method ilOffset)

/-- The viewer of a document finds statements, and may have a decompiler of its own. -/
structure DocumentViewer where
  find? : MethodId → UInt32 → Option MethodStatement
  decompiler : Option Decompiler

/-- The viewer of a decompiled document. -/
def StatementMap.viewer (map : StatementMap) : DocumentViewer :=
  ⟨map.find?, map.decompiler⟩

/-- A view shows plain text, or a document that has a viewer. -/
structure TextView where
  viewer : Option DocumentViewer

/-- A view of plain text has no viewer. -/
def TextView.plain : TextView :=
  ⟨none⟩

/-- A view of a decompiled document. -/
def TextView.decompiled (map : StatementMap) : TextView :=
  ⟨some map.viewer⟩

end BreakpointGlyph
