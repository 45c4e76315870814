import BreakpointGlyph.Tooltip.History

/-! A statement map answers every query with the earliest insertion that qualifies, for good. -/

namespace BreakpointGlyph

/-- Two identities are the same if all of their parts are. -/
theorem MethodId.eq_iff {id other : MethodId} :
    id = other ↔
      id.module.name = other.module.name ∧ id.module.dynamic = other.module.dynamic ∧
        id.module.inMemory = other.module.inMemory ∧ id.token.value = other.token.value := by
  obtain ⟨⟨_, _, _⟩, ⟨_⟩⟩ := id
  obtain ⟨⟨_, _, _⟩, ⟨_⟩⟩ := other
  simp [and_assoc]

/-- A statement answers a query exactly if it qualifies for it. -/
theorem MethodStatement.answers_iff {statement : MethodStatement} {method : MethodId}
    {ilOffset : UInt32} :
    statement.answers method ilOffset = true ↔ statement.Qualifies method ilOffset := by
  -- Identities are compared part by part, and the ends of a span by their numbers.
  simp only [answers, contains, Bool.and_eq_true, beq_iff_eq, decide_eq_true_eq,
    UInt32.le_iff_toNat_le, MethodId.eq_iff]
  constructor
  · rintro ⟨⟨name, dynamic, inMemory, token⟩, first, last⟩
    exact ⟨name, dynamic, inMemory, token, first, last⟩
  · rintro ⟨name, dynamic, inMemory, token, first, last⟩
    exact ⟨⟨name, dynamic, inMemory, token⟩, first, last⟩

section

variable {method : MethodId} {ilOffset : UInt32}

/-- A change answers a query with a statement exactly if it inserts that one and it qualifies. -/
theorem MapChange.answer?_eq_some {change : MapChange} {statement : MethodStatement} :
    change.answer? method ilOffset = some statement ↔
      change = .insert statement ∧ statement.Qualifies method ilOffset := by
  cases change with
  | insert inserted =>
    -- The answer is the statement that is inserted, so there is no other that it could be.
    simp only [answer?, MethodStatement.answers_iff, Option.ite_none_right_eq_some,
      Option.some.injEq, MapChange.insert.injEq]
    constructor
    · rintro ⟨qualified, rfl⟩
      exact ⟨rfl, qualified⟩
    · rintro ⟨rfl, qualified⟩
      exact ⟨qualified, rfl⟩
  | bind decompiler => simp [answer?]

/-- A change has no answer to a query exactly if it inserts nothing that qualifies. -/
theorem MapChange.answer?_eq_none {change : MapChange} :
    change.answer? method ilOffset = none ↔
      ∀ statement, change = .insert statement → ¬statement.Qualifies method ilOffset := by
  simp [Option.eq_none_iff_forall_ne_some, answer?_eq_some]

/-- A change adds its answer for the case that there was none before. -/
theorem StatementMap.find?_change (map : StatementMap) (change : MapChange) :
    (map.change change).find? method ilOffset =
      (map.find? method ilOffset).or (change.answer? method ilOffset) := by
  cases change with
  | insert statement =>
    -- The statement is put behind all others, so the search comes to it last.
    simp [StatementMap.change, insert, find?, MapChange.answer?, List.find?_append,
      List.find?_singleton]
  | bind decompiler => simp [StatementMap.change, withDecompiler, find?, MapChange.answer?]

/-- Many changes add their first answer for the case that there was none before. -/
theorem StatementMap.find?_changes (map : StatementMap) (changes : List MapChange) :
    (changes.foldl change map).find? method ilOffset =
      (map.find? method ilOffset).or (changes.findSome? (·.answer? method ilOffset)) := by
  -- Each change works on the map that the ones before it have left.
  induction changes generalizing map with
  | nil => simp
  | cons first rest ih =>
    rw [List.foldl_cons, ih, find?_change, Option.or_assoc, List.findSome?_cons]
    cases first.answer? method ilOffset <;> rfl

/-- The answer of a map is the first answer of its history. -/
theorem StatementMap.find?_ofHistory (history : List MapChange) :
    (ofHistory history).find? method ilOffset =
      history.findSome? (·.answer? method ilOffset) := by
  -- The empty map has no answer.
  rw [ofHistory, find?_changes]
  rfl

/-- The answer of a map is the earliest statement inserted that qualifies. -/
theorem StatementMap.find?_eq_some_iff {history : List MapChange} {statement : MethodStatement} :
    (ofHistory history).find? method ilOffset = some statement ↔
      ∃ before after, history = before ++ .insert statement :: after ∧
        statement.Qualifies method ilOffset ∧
        ∀ earlier, .insert earlier ∈ before → ¬earlier.Qualifies method ilOffset := by
  rw [find?_ofHistory, List.findSome?_eq_some_iff]
  simp only [MapChange.answer?_eq_some, MapChange.answer?_eq_none]
  constructor
  · rintro ⟨before, _, after, rfl, ⟨rfl, qualified⟩, unqualified⟩
    exact ⟨before, after, rfl, qualified, fun earlier member => unqualified _ member earlier rfl⟩
  · rintro ⟨before, after, rfl, qualified, unqualified⟩
    exact ⟨before, _, after, rfl, ⟨rfl, qualified⟩,
      fun change member earlier same => unqualified earlier (same ▸ member)⟩

/-- A map has no answer exactly if no statement inserted qualifies. -/
theorem StatementMap.find?_eq_none_iff {history : List MapChange} :
    (ofHistory history).find? method ilOffset = none ↔
      ∀ statement, .insert statement ∈ history → ¬statement.Qualifies method ilOffset := by
  rw [find?_ofHistory, List.findSome?_eq_none_iff]
  simp only [MapChange.answer?_eq_none]
  constructor
  · exact fun unqualified statement member => unqualified _ member statement rfl
  · exact fun unqualified change member statement same => unqualified statement (same ▸ member)

/-- Later changes count only where there was no answer before them. -/
theorem StatementMap.find?_append (history later : List MapChange) :
    (ofHistory (history ++ later)).find? method ilOffset =
      ((ofHistory history).find? method ilOffset).or
        (later.findSome? (·.answer? method ilOffset)) := by
  rw [find?_ofHistory, find?_ofHistory, List.findSome?_append]

end

/-- After any history a map answers a query with the earliest statement inserted that qualifies, and
does not answer if there is none. So an answer that has been given stays, binding a decompiler at
any time makes no difference, and an insertion changes only what had no answer and what it
qualifies for itself. A statement that ends before it starts is never an answer, and the greatest
offset has one if a statement of the method reaches up to it. -/
theorem StatementMap.find?_eq_earliest (history : List MapChange) (method : MethodId)
    (ilOffset : UInt32) :
    (∀ statement, (ofHistory history).find? method ilOffset = some statement ↔
        ∃ before after, history = before ++ .insert statement :: after ∧
          statement.Qualifies method ilOffset ∧
          ∀ earlier, .insert earlier ∈ before → ¬earlier.Qualifies method ilOffset) ∧
      ((ofHistory history).find? method ilOffset = none ↔
        ∀ statement, .insert statement ∈ history → ¬statement.Qualifies method ilOffset) ∧
      (∀ statement later, (ofHistory history).find? method ilOffset = some statement →
        (ofHistory (history ++ later)).find? method ilOffset = some statement) ∧
      (∀ decompiler later, (ofHistory (history ++ .bind decompiler :: later)).find? method ilOffset =
        (ofHistory (history ++ later)).find? method ilOffset) ∧
      (∀ statement, (ofHistory (history ++ [.insert statement])).find? method ilOffset ≠
          (ofHistory history).find? method ilOffset →
        (ofHistory history).find? method ilOffset = none ∧
          statement.Qualifies method ilOffset) ∧
      (∀ statement, statement.last < statement.first →
        (ofHistory history).find? method ilOffset ≠ some statement) ∧
      (∀ statement, .insert statement ∈ history → statement.method.id = method →
        statement.last = 0xFFFFFFFF → (ofHistory history).find? method 0xFFFFFFFF ≠ none) := by
  refine ⟨fun _ => find?_eq_some_iff, find?_eq_none_iff, ?_, ?_, ?_, ?_, ?_⟩
  · intro statement later found
    rw [find?_append, found, Option.some_or]
  · intro decompiler later
    -- The binding has no answer to add to those of the later changes.
    rw [find?_append, find?_append]
    rfl
  · intro statement changed
    rw [find?_append] at changed
    cases before : (ofHistory history).find? method ilOffset with
    | some found => simp [before] at changed
    | none =>
      -- There was no answer to begin with, so the one there is now is that of the insertion.
      refine ⟨rfl, ?_⟩
      cases answer : (MapChange.insert statement).answer? method ilOffset with
      | none => simp [before, answer] at changed
      | some found =>
        obtain ⟨same, qualified⟩ := MapChange.answer?_eq_some.mp answer
        exact MapChange.insert.inj same ▸ qualified
  · intro statement inverted found
    obtain ⟨_, _, _, qualified, _⟩ := find?_eq_some_iff.mp found
    have ordered := Nat.le_trans qualified.first qualified.last
    exact absurd (UInt32.lt_iff_toNat_lt.mp inverted) (Nat.not_lt.mpr ordered)
  · intro statement member same reaching absent
    -- No offset is greater, so the statement starts at it or in front of it.
    have first : statement.first.toNat ≤ (0xFFFFFFFF : UInt32).toNat :=
      Nat.le_of_lt_succ statement.first.toNat_lt
    exact find?_eq_none_iff.mp absent statement member
      ⟨by rw [same], by rw [same], by rw [same], by rw [same], first,
        Nat.le_of_eq (congrArg UInt32.toNat reaching.symm)⟩

/-- A statement of a method with a given name in a given module. -/
def spanStatement (module : ModuleId) (name : String) (first last : UInt32) : MethodStatement :=
  ⟨⟨⟨module, ⟨0x06000001⟩⟩, "App", "Program", name, [], none⟩, first, last⟩

/-- Spans that are inverted, that belong to another module of the same name, and that overlap. -/
def overlappingHistory : List MapChange :=
  [.insert (spanStatement (.ofFile "App.dll") "inverted" 0xFFFFFFFF 0),
    .insert (spanStatement (.ofMemory "App.dll") "other" 0 0xFFFFFFFF),
    .bind .signaturePrinter,
    .insert (spanStatement (.ofFile "App.dll") "earliest" 7 0xFFFFFFFF),
    .insert (spanStatement (.ofFile "App.dll") "later" 0 0xFFFFFFFF)]

/-- The greatest offset is answered by the earliest of the overlapping spans, for good. -/
theorem StatementMap.find?_eq_earliest_overlapping :
    let method : MethodId := ⟨.ofFile "App.dll", ⟨0x06000001⟩⟩
    let answer := some (spanStatement (.ofFile "App.dll") "earliest" 7 0xFFFFFFFF)
    (ofHistory overlappingHistory).find? method 0xFFFFFFFF = answer ∧
      (ofHistory (overlappingHistory ++ overlappingHistory.reverse)).find? method 0xFFFFFFFF =
        answer := by
  intro method answer
  have found : (ofHistory overlappingHistory).find? method 0xFFFFFFFF = answer := by decide
  obtain ⟨_, _, stays, _⟩ := find?_eq_earliest overlappingHistory method 0xFFFFFFFF
  exact ⟨found, stays _ _ found⟩

end BreakpointGlyph
