import BreakpointGlyph.Proofs.Tooltip.History
import Mathlib.Data.List.Find
import Mathlib.Data.List.Pairwise

/-! The order of insertions makes no difference exactly as long as no two spans of a method meet. -/

namespace BreakpointGlyph

/-- Inserting statements puts them behind those that are there, in the same order. -/
theorem StatementMap.foldl_insert (map : StatementMap) (statements : List MethodStatement) :
    (statements.map MapChange.insert).foldl change map =
      ⟨map.statements ++ statements, map.decompiler⟩ := by
  -- Every insertion works on what the ones before it have left.
  induction statements generalizing map with
  | nil => simp
  | cons first rest ih =>
    rw [List.map_cons, List.foldl_cons, ih]
    simp [change, insert]

/-- A map that statements were inserted into is searched in the order of the insertions. -/
theorem StatementMap.find?_ofStatements (statements : List MethodStatement) (method : MethodId)
    (ilOffset : UInt32) :
    (ofStatements statements).find? method ilOffset =
      statements.find? (·.answers method ilOffset) := by
  -- The empty map has no statements in front of them.
  rw [ofStatements, ofHistory, foldl_insert]
  rfl

/-- Keeping apart is mutual. -/
instance : Std.Symm MethodStatement.KeepsApart where
  symm _ _ apart same offset both := apart same.symm offset ⟨both.2, both.1⟩

/-- Statements of one method that keep apart do not both qualify for a query. -/
theorem MethodStatement.KeepsApart.not_both {statement other : MethodStatement}
    (apart : statement.KeepsApart other) {method : MethodId} {ilOffset : UInt32}
    (qualified : statement.Qualifies method ilOffset) : ¬other.Qualifies method ilOffset := by
  intro alsoQualified
  -- Both belong to the method of the query, and its offset lies in both of the spans.
  have named : statement.method.id = method := MethodId.eq_iff.mpr
    ⟨qualified.name, qualified.dynamic, qualified.inMemory, qualified.token⟩
  have otherNamed : other.method.id = method := MethodId.eq_iff.mpr
    ⟨alsoQualified.name, alsoQualified.dynamic, alsoQualified.inMemory, alsoQualified.token⟩
  exact apart (named.trans otherNamed.symm) ilOffset.toNat
    ⟨⟨qualified.first, qualified.last⟩, alsoQualified.first, alsoQualified.last⟩

/-- Statements of one method that do not keep apart both qualify for some query. -/
theorem MethodStatement.exists_both {statement other : MethodStatement}
    (meeting : ¬statement.KeepsApart other) :
    ∃ ilOffset, statement.Qualifies statement.method.id ilOffset ∧
      other.Qualifies statement.method.id ilOffset := by
  unfold KeepsApart at meeting
  push Not at meeting
  obtain ⟨same, offset, ⟨first, last⟩, otherFirst, otherLast⟩ := meeting
  -- The number that lies in both spans is not greater than an end of them, so it is an IL offset.
  have small : offset < UInt32.size := Nat.lt_of_le_of_lt last statement.last.toNat_lt
  have number : (UInt32.ofNat offset).toNat = offset := UInt32.toNat_ofNat_of_lt' small
  refine ⟨UInt32.ofNat offset, ⟨rfl, rfl, rfl, rfl, ?_, ?_⟩, ?_⟩
  · rwa [number]
  · rwa [number]
  · rw [same]
    exact ⟨rfl, rfl, rfl, rfl, by rwa [number], by rwa [number]⟩

/-- Among statements that keep apart from each other, one at most answers a query. -/
theorem answers_subsingleton {statements : List MethodStatement}
    (apart : ∀ statement ∈ statements, ∀ other ∈ statements, statement ≠ other →
      statement.KeepsApart other) (method : MethodId) (ilOffset : UInt32) :
    {statement ∈ statements | statement.answers method ilOffset = true}.Subsingleton := by
  intro statement answering other alsoAnswering
  -- Two different ones would both qualify for the query.
  by_contra different
  have qualified := MethodStatement.answers_iff.mp answering.2
  have alsoQualified := MethodStatement.answers_iff.mp alsoAnswering.2
  exact (apart statement answering.1 other alsoAnswering.1 different).not_both qualified
    alsoQualified

/-- Among statements that keep apart from each other, the answer to a query is the one that
qualifies for it, wherever it stands. -/
theorem StatementMap.find?_eq_some_iff_of_apart {statements : List MethodStatement}
    (apart : ∀ statement ∈ statements, ∀ other ∈ statements, statement ≠ other →
      statement.KeepsApart other) {method : MethodId} {ilOffset : UInt32}
    {statement : MethodStatement} :
    (ofStatements statements).find? method ilOffset = some statement ↔
      statement ∈ statements ∧ statement.Qualifies method ilOffset := by
  -- What is found qualifies in any case; that all that qualifies is found takes the keeping apart.
  rw [find?_ofStatements]
  constructor
  · intro found
    have answering := List.find?_some found
    exact ⟨List.mem_of_find?_eq_some found, MethodStatement.answers_iff.mp answering⟩
  · intro both
    have answering := MethodStatement.answers_iff.mpr both.2
    have present : (statements.find? (·.answers method ilOffset)).isSome :=
      List.find?_isSome.mpr ⟨statement, both.1, answering⟩
    -- Something is found, and it can be nothing else than this statement.
    obtain ⟨found, located⟩ := Option.isSome_iff_exists.mp present
    have member := List.mem_of_find?_eq_some located
    have alsoAnswering : found.answers method ilOffset = true := by
      simpa using List.find?_some located
    have same := answers_subsingleton apart method ilOffset ⟨member, alsoAnswering⟩
      ⟨both.1, answering⟩
    rw [located, same]

/-- A statement that qualifies for a query is the answer if it was inserted first. -/
theorem StatementMap.find?_first {statement : MethodStatement} (rest : List MethodStatement)
    {method : MethodId} {ilOffset : UInt32} (qualified : statement.Qualifies method ilOffset) :
    (ofStatements (statement :: rest)).find? method ilOffset = some statement := by
  have answering := MethodStatement.answers_iff.mpr qualified
  simp [find?_ofStatements, answering]

/-- All orders of insertion give the same answers exactly if different statements keep apart. -/
theorem StatementMap.find?_perm_iff (statements : List MethodStatement) :
    (∀ others, statements.Perm others → ∀ method ilOffset,
        (ofStatements others).find? method ilOffset =
          (ofStatements statements).find? method ilOffset) ↔
      ∀ statement ∈ statements, ∀ other ∈ statements, statement ≠ other →
        statement.KeepsApart other := by
  constructor
  · intro alike statement member other alsoMember different
    by_contra meeting
    obtain ⟨ilOffset, qualified, alsoQualified⟩ := MethodStatement.exists_both meeting
    -- Whichever of the two is inserted first is the answer, so the answers differ.
    have first := alike _ (List.perm_cons_erase member) statement.method.id ilOffset
    have alsoFirst := alike _ (List.perm_cons_erase alsoMember) statement.method.id ilOffset
    rw [find?_first _ qualified] at first
    rw [find?_first _ alsoQualified] at alsoFirst
    exact different (Option.some.inj (first.trans alsoFirst.symm))
  · intro apart others permuted method ilOffset
    -- There is one answer at most, so a search finds it wherever it stands.
    rw [find?_ofStatements, find?_ofStatements]
    exact (List.find?_eq_find?_of_perm permuted (answers_subsingleton apart method ilOffset)).symm

/-- Statements may be inserted in any order if those of the same method have no offset in common:
the answer to a query is the same, and is the only one of them that qualifies for it. -/
theorem StatementMap.find?_permuted {statements others : List MethodStatement}
    (apart : statements.Pairwise MethodStatement.KeepsApart) (permuted : statements.Perm others)
    (method : MethodId) (ilOffset : UInt32) :
    (ofStatements others).find? method ilOffset =
        (ofStatements statements).find? method ilOffset ∧
      ∀ statement, (ofStatements others).find? method ilOffset = some statement ↔
        statement ∈ statements ∧ statement.Qualifies method ilOffset := by
  -- Keeping apart is mutual, so it holds of any two of the statements in either order.
  have anyTwo : ∀ statement ∈ statements, ∀ other ∈ statements, statement ≠ other →
      statement.KeepsApart other := fun _ member _ alsoMember different =>
    apart.forall member alsoMember different
  have alike := (find?_perm_iff statements).mpr anyTwo others permuted method ilOffset
  refine ⟨alike, fun statement => ?_⟩
  rw [alike, find?_eq_some_iff_of_apart anyTwo]

/-- Spans side by side, one that is inverted, and one of a module of the same name in memory. -/
def adjoiningStatements : List MethodStatement :=
  [spanStatement (.ofFile "App.dll") "front" 0 6, spanStatement (.ofFile "App.dll") "inverted" 9 3,
    spanStatement (.ofMemory "App.dll") "other" 0 0xFFFFFFFF,
    spanStatement (.ofFile "App.dll") "back" 7 0xFFFFFFFF]

/-- Both orders answer the offset behind the end of the first span with the last statement. -/
theorem StatementMap.find?_permuted_adjoining :
    let method : MethodId := ⟨.ofFile "App.dll", ⟨0x06000001⟩⟩
    let answer := some (spanStatement (.ofFile "App.dll") "back" 7 0xFFFFFFFF)
    adjoiningStatements.Pairwise MethodStatement.KeepsApart ∧
      adjoiningStatements.Perm adjoiningStatements.reverse ∧
      (ofStatements adjoiningStatements).find? method 7 = answer ∧
      (ofStatements adjoiningStatements.reverse).find? method 7 = answer := by
  intro method answer
  have apart : adjoiningStatements.Pairwise MethodStatement.KeepsApart := by
    simp [adjoiningStatements, MethodStatement.KeepsApart, MethodStatement.Spans, spanStatement,
      ModuleId.ofFile, ModuleId.ofMemory]
    refine ⟨⟨?_, ?_⟩, ?_⟩ <;> intros <;> omega
  have permuted := (List.reverse_perm adjoiningStatements).symm
  have found : (ofStatements adjoiningStatements).find? method 7 = answer := by decide
  exact ⟨apart, permuted, found, (find?_permuted apart permuted method 7).1.trans found⟩

end BreakpointGlyph
