import BreakpointGlyph.Tooltip.Statement

/-! The history of a statement map: what was done to it, and what qualifies for a query. -/

namespace BreakpointGlyph

/-- Something that is done to a statement map. -/
inductive MapChange where
  | insert (statement : MethodStatement)
  | bind (decompiler : Decompiler)

/-- A map after one change. -/
def StatementMap.change (map : StatementMap) : MapChange → StatementMap
  | .insert statement => map.insert statement
  | .bind decompiler => map.withDecompiler decompiler

/-- The map that is left of an empty one after some changes in order. -/
def StatementMap.ofHistory (history : List MapChange) : StatementMap :=
  history.foldl StatementMap.change {}

/-- The map that some statements have been inserted into, one after the other. -/
def StatementMap.ofStatements (statements : List MethodStatement) : StatementMap :=
  ofHistory (statements.map MapChange.insert)

/-- The answer that a change has to a query: the statement that it inserts, if that one answers. -/
def MapChange.answer? (method : MethodId) (ilOffset : UInt32) : MapChange → Option MethodStatement
  | .insert statement => if statement.answers method ilOffset then some statement else none
  | .bind _ => none

/-- A statement qualifies for a query if its method agrees with that of the query in every part of
its identity, and the IL offset is not outside of the ends of its span. -/
structure MethodStatement.Qualifies (statement : MethodStatement) (method : MethodId)
    (ilOffset : UInt32) : Prop where
  name : statement.method.id.module.name = method.module.name
  dynamic : statement.method.id.module.dynamic = method.module.dynamic
  inMemory : statement.method.id.module.inMemory = method.module.inMemory
  token : statement.method.id.token.value = method.token.value
  first : statement.first.toNat ≤ ilOffset.toNat
  last : ilOffset.toNat ≤ statement.last.toNat

/-- A number lies in the span of a statement if it is not outside of its ends. -/
def MethodStatement.Spans (statement : MethodStatement) (offset : Nat) : Prop :=
  statement.first.toNat ≤ offset ∧ offset ≤ statement.last.toNat

/-- Two statements keep apart if they are of different methods, or no number lies in the spans of
both, so that a shared end is too much and an inverted span is apart from all others. -/
def MethodStatement.KeepsApart (statement other : MethodStatement) : Prop :=
  statement.method.id = other.method.id → ∀ offset, ¬(statement.Spans offset ∧ other.Spans offset)

end BreakpointGlyph
