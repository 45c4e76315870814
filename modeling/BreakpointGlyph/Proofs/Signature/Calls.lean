import BreakpointGlyph.Proofs.Signature.Commas
import BreakpointGlyph.Signature.Calls
import Mathlib.Data.List.Chain

/-! The printer of type names comes to an end, whatever the brackets of a name are: calls are nested
no deeper than the name has brackets that open a list. -/

namespace BreakpointGlyph

/-! One call -/

/-- What is called for are the arguments of the list that a name has, if it has one. -/
theorem callsFor_iff {name argument : List Char} :
    CallsFor name argument ↔ ∃ inside, (splitTypeName (trim name)).arguments = some inside ∧
      argument ∈ genericArguments inside := by
  unfold CallsFor nameArguments
  cases (splitTypeName (trim name)).arguments <;> simp

/-- A name that is called for is shorter than the trimmed name. -/
theorem CallsFor.length_lt {name argument : List Char} (called : CallsFor name argument) :
    argument.length < (trim name).length := by
  obtain ⟨inside, cut, listed⟩ := callsFor_iff.mp called
  calc argument.length
    _ ≤ inside.length := length_of_mem_genericArguments listed
    _ < (trim name).length := length_of_splitTypeName cut

/-- A name that is called for has fewer brackets that open a list than the trimmed name. -/
theorem CallsFor.count_lt {name argument : List Char} (called : CallsFor name argument) :
    argument.count '<' < (trim name).count '<' := by
  obtain ⟨inside, cut, listed⟩ := callsFor_iff.mp called
  -- The bracket that opens the list itself is in the name, and not in the list.
  have more : inside.count '<' < ('<' :: inside ++ ['>']).count '<' := by simp
  calc argument.count '<'
    _ ≤ inside.count '<' := (infix_of_mem_genericArguments listed).sublist.count_le '<'
    _ < ('<' :: inside ++ ['>']).count '<' := more
    _ ≤ (trim name).count '<' := (infix_of_splitTypeName cut).sublist.count_le '<'

/-- A name is printed by its parts, with what is printed of its arguments. -/
theorem typeSegments_parts (flags : SignatureFlags) (name : List Char) :
    typeSegments flags name = partsSegments flags (splitTypeName (trim name))
      ((nameArguments name).map (typeSegments flags)) := by
  rw [typeSegments_eq, partsSegments, nameArguments]
  dsimp only
  cases (splitTypeName (trim name)).arguments <;> rfl

/-! Calls within calls -/

/-- Calls for some items come to nothing exactly if one of them does. -/
theorem mapM_eq_none_iff {α β : Type} {call : α → Option β} {items : List α} :
    items.mapM call = none ↔ ∃ item ∈ items, call item = none := by
  induction items with
  | nil => simp
  | cons first rest ih =>
    cases answer : call first with
    | none => simp [answer]
    | some line => cases later : rest.mapM call <;> simp_all

/-- Calls for some items come to what each of them comes to, if they come to something. -/
theorem eq_map_of_mapM {α β : Type} {call : α → Option β} {print : α → β}
    (printed : ∀ item line, call item = some line → line = print item) {items : List α}
    {lines : List β} (answers : items.mapM call = some lines) : lines = items.map print := by
  induction items generalizing lines with
  | nil => simpa using answers.symm
  | cons first rest ih =>
    simp only [List.mapM_cons, Option.bind_eq_bind, Option.bind_eq_some_iff, Option.pure_def,
      Option.some.injEq] at answers
    obtain ⟨line, answer, others, later, rfl⟩ := answers
    rw [List.map_cons, printed first line answer, ih later]

/-- What is printed within any number of calls is what is printed without a limit. -/
theorem eq_typeSegments_of_within {flags : SignatureFlags} {calls : Nat} {name : List Char}
    {line : List Segment} (within : typeSegmentsWithin flags calls name = some line) :
    line = typeSegments flags name := by
  induction calls generalizing name line with
  | zero => simp [typeSegmentsWithin] at within
  | succ calls ih =>
    obtain ⟨lines, answers, rfl⟩ := Option.map_eq_some_iff.mp within
    rw [typeSegments_parts, eq_map_of_mapM (fun _ _ => ih) answers]

/-- Nothing is printed exactly if as many calls are nested within each other as can be open at a
time: with the call for the name itself there is one too many. -/
theorem typeSegmentsWithin_eq_none_iff {flags : SignatureFlags} {calls : Nat} {name : List Char} :
    typeSegmentsWithin flags calls name = none ↔
      ∃ nested, nested.length = calls ∧ List.IsChain CallsFor (name :: nested) := by
  induction calls generalizing name with
  | zero => simp [typeSegmentsWithin]
  | succ calls ih =>
    rw [typeSegmentsWithin, Option.map_eq_none_iff, mapM_eq_none_iff]
    constructor
    · rintro ⟨argument, listed, unanswered⟩
      obtain ⟨nested, rfl, chain⟩ := ih.mp unanswered
      exact ⟨argument :: nested, rfl, .cons_cons listed chain⟩
    · rintro ⟨nested, counted, chain⟩
      -- The first of the nested calls has the others in its course.
      obtain ⟨argument, others, rfl⟩ := List.exists_cons_of_length_eq_add_one counted
      obtain ⟨listed, later⟩ := List.isChain_cons_cons.mp chain
      exact ⟨argument, listed, ih.mpr ⟨others, by simpa using counted, later⟩⟩

/-- Calls are nested no deeper than the name has brackets that open a list. -/
theorem length_le_of_isChain {name : List Char} {nested : List (List Char)}
    (chain : List.IsChain CallsFor (name :: nested)) : nested.length ≤ name.count '<' := by
  -- Each call leaves at least one of these brackets behind.
  induction nested generalizing name with
  | nil => simp
  | cons argument others ih =>
    obtain ⟨called, later⟩ := List.isChain_cons_cons.mp chain
    calc others.length + 1
      _ ≤ argument.count '<' + 1 := Nat.succ_le_succ (ih later)
      _ ≤ (trim name).count '<' := called.count_lt
      _ ≤ name.count '<' := (infix_trim name).sublist.count_le '<'

/-- The printer of type names comes to an end for every name. Each name that it is called for in the
course of another one has fewer characters, and fewer brackets that open a list, than that one has
without the white space around it. So calls are nested no deeper than the name has such brackets,
and the name is printed as soon as more calls than that can be open at a time. -/
theorem typeSegments_calls (flags : SignatureFlags) (name : List Char) :
    (∀ argument, CallsFor name argument →
        argument.length < (trim name).length ∧ argument.count '<' < (trim name).count '<') ∧
      (∀ nested, List.IsChain CallsFor (name :: nested) → nested.length ≤ name.count '<') ∧
        ∀ calls, name.count '<' < calls →
          typeSegmentsWithin flags calls name = some (typeSegments flags name) := by
  refine ⟨fun argument called => ⟨called.length_lt, called.count_lt⟩,
    fun nested => length_le_of_isChain, fun calls enough => ?_⟩
  cases within : typeSegmentsWithin flags calls name with
  | some line => rw [eq_typeSegments_of_within within]
  | none =>
    -- As many calls would be nested within that for the name, which is too many.
    obtain ⟨nested, counted, chain⟩ := typeSegmentsWithin_eq_none_iff.mp within
    have bound := length_le_of_isChain chain
    omega

/-- Brackets that match nothing make no calls, and neither does an argument that is empty. -/
theorem typeSegments_calls_malformed :
    let name := "A<B<C]>,>x<".toList
    let nested := ["B<C]>".toList, "C]".toList]
    List.IsChain CallsFor (name :: nested) ∧ nested.length ≤ name.count '<' ∧
      typeSegmentsWithin .all 4 name = some (typeSegments .all name) := by
  obtain ⟨-, bounded, printed⟩ := typeSegments_calls .all "A<B<C]>,>x<".toList
  have chain : List.IsChain CallsFor
      ["A<B<C]>,>x<".toList, "B<C]>".toList, "C]".toList] := by
    decide
  exact ⟨chain, bounded _ chain, printed 4 (by decide)⟩

/-- No fewer calls will do where every list stands in another one. -/
example : typeSegmentsWithin .all 2 "A<B<C>>".toList = none := by decide

end BreakpointGlyph
