import BreakpointGlyph.Signature.Layout

/-! The signature of a method is the only line that has the layout of one, and a parameter that is
added to the method is added to the end of its list. -/

namespace BreakpointGlyph

/-- A name in front of a dot is the first part that the dots leave, if it has none of its own. -/
theorem splitOn_dot {component : List Char} (undotted : '.' ∉ component) (rest : List Char) :
    (component ++ '.' :: rest).splitOn '.' = component :: rest.splitOn '.' := by
  have passed : ∀ c ∈ component, (c == '.') = false := by
    intro c member
    have other : c ≠ '.' := fun same => undotted (same ▸ member)
    simpa using other
  rw [List.splitOn_eq_splitOnP, List.splitOn_eq_splitOnP]
  exact List.splitOnP_append_cons_of_forall_mem passed '.' (by simp) rest

/-- A name without dots is the only part that the dots leave. -/
theorem splitOn_undotted {component : List Char} (undotted : '.' ∉ component) :
    component.splitOn '.' = [component] := by
  -- Putting a single part together changes nothing.
  have joined : (['.'].intercalate [component]).splitOn '.' = [component] :=
    List.splitOn_intercalate '.' (by simpa using undotted) (by simp)
  simpa using joined

/-- The parts of a dotted name are shown in one way. -/
theorem dottedLine_iff {color : TextColor} {name : List Char} {line : List Segment} :
    DottedLine color name line ↔ line = dottedSegments color name := by
  constructor
  · intro dotted
    induction dotted with
    | last undotted => simp [dottedSegments, splitOn_undotted undotted]
    | @more component rest line undotted _ ih =>
      -- There is a part behind the dot, so there is a dot behind the component.
      obtain ⟨next, others, parts⟩ := List.exists_cons_of_ne_nil (List.splitOn_ne_nil '.' rest)
      simp only [ih, dottedSegments, splitOn_dot undotted, parts, List.map_cons,
        List.intersperse_cons_cons]
  · rintro rfl
    -- What is behind the first dot is a shorter name.
    induction name using WellFounded.induction (measure List.length).wf with
    | _ name ih =>
      cases cut : cutAtFirst '.' name with
      | none =>
        have undotted := not_mem_of_cutAtFirst cut
        simpa [dottedSegments, splitOn_undotted undotted] using DottedLine.last undotted
      | some parts =>
        obtain ⟨component, rest⟩ := parts
        have undotted := not_mem_before_cutAtFirst cut
        have shorter := ih rest (length_of_cutAtFirst cut)
        obtain ⟨next, others, parts⟩ := List.exists_cons_of_ne_nil (List.splitOn_ne_nil '.' rest)
        have dotted : DottedLine color (component ++ '.' :: rest) _ := .more undotted shorter
        simp only [dottedSegments, parts, List.map_cons] at dotted
        rw [eq_of_cutAtFirst cut]
        simpa only [dottedSegments, splitOn_dot undotted, parts, List.map_cons,
          List.intersperse_cons_cons] using dotted

/-- A dotted name has one last component. -/
theorem lastComponent_iff {name last : List Char} :
    LastComponent name last ↔ last = lastDotted name := by
  constructor
  · intro component
    -- In each case the name is cut where the component says, or not at all.
    cases component with
    | whole undotted => simp [lastDotted, cutAtLast_eq_none undotted]
    | behind undotted => simp [lastDotted, cutAtLast_append undotted]
  · rintro rfl
    cases cut : cutAtLast '.' name with
    | none =>
      have whole := LastComponent.whole (not_mem_of_cutAtLast cut)
      simpa [lastDotted, cut] using whole
    | some parts =>
      have behind : LastComponent (parts.1 ++ '.' :: parts.2) parts.2 :=
        .behind (not_mem_after_cutAtLast cut)
      rw [← eq_of_cutAtLast cut] at behind
      simpa [lastDotted, cut] using behind

/-- The return type is shown in one way. -/
theorem returnLine_iff {flags : SignatureFlags} {method : Method} {line : List Segment} :
    ReturnLine flags method line ↔ line = returnSegments flags method := by
  constructor
  · intro returned
    -- The two cases exclude each other, and each says what is shown.
    cases returned with
    | shown wanted given => simp [returnSegments, wanted, given]
    | hidden absent => cases wanted : flags.returnTypes <;> simp_all [returnSegments]
  · rintro rfl
    cases wanted : flags.returnTypes with
    | false =>
      have hidden : ReturnLine flags method [] := .hidden (by simp [wanted])
      simpa [returnSegments, wanted] using hidden
    | true =>
      cases given : method.returnType with
      | none =>
        have hidden : ReturnLine flags method [] := .hidden fun _ => given
        simpa [returnSegments, wanted, given] using hidden
      | some name => simpa [returnSegments, wanted, given] using ReturnLine.shown wanted given

/-- The namespace is shown in one way. -/
theorem namespaceLine_iff {flags : SignatureFlags} {method : Method} {line : List Segment} :
    NamespaceLine flags method line ↔
      line = if flags.namespaces && method.namespaceName != "" then
        dottedSegments .namespaceName method.namespaceName.toList ++ [.mark "."] else [] := by
  by_cases named : flags.namespaces = true ∧ method.namespaceName ≠ ""
  · -- There is a namespace to be shown, so it is not left out.
    obtain ⟨wanted, given⟩ := named
    simp only [wanted, given, Bool.true_and, bne_iff_ne, ne_eq, not_false_eq_true, if_true]
    constructor
    · intro outer
      cases outer with
      | shown _ _ dotted => rw [dottedLine_iff.mp dotted]
      | hidden absent => exact absurd (absent wanted) given
    · rintro rfl
      exact .shown wanted given (dottedLine_iff.mpr rfl)
  · -- Either no namespace is wanted, or there is none.
    have absent : flags.namespaces = true → method.namespaceName = "" :=
      fun wanted => Decidable.byContradiction fun given => named ⟨wanted, given⟩
    have unshown : (flags.namespaces && method.namespaceName != "") = false := by
      simpa using absent
    simp only [unshown, Bool.false_eq_true, if_false]
    constructor
    · intro outer
      cases outer with
      | shown wanted given => exact absurd ⟨wanted, given⟩ named
      | hidden _ => rfl
    · rintro rfl
      exact .hidden absent

/-- The owner is shown in one way. -/
theorem ownerLine_iff {flags : SignatureFlags} {method : Method} {line : List Segment} :
    OwnerLine flags method line ↔ line = ownerSegments flags method := by
  cases wanted : flags.ownerTypes with
  | false =>
    simp only [ownerSegments, wanted, Bool.false_eq_true, if_false]
    constructor
    · intro owner
      cases owner with
      | shown shown => simp [wanted] at shown
      | hidden _ => rfl
    · rintro rfl
      exact .hidden wanted
  | true =>
    simp only [ownerSegments, wanted, if_true]
    constructor
    · intro owner
      cases owner with
      | shown _ outer dotted => rw [namespaceLine_iff.mp outer, dottedLine_iff.mp dotted]
      | hidden unwanted => simp [wanted] at unwanted
    · rintro rfl
      exact .shown wanted (namespaceLine_iff.mpr rfl) (dottedLine_iff.mpr rfl)

/-- A method has one name. -/
theorem nameLine_iff {method : Method} {segment : Segment} :
    NameLine method segment ↔ segment = nameSegment method := by
  -- The two names of constructors are what the printer asks about, so each case has one rule left.
  by_cases reserved : method.name = ".ctor" ∨ method.name = ".cctor"
  · have constructs : method.isConstructor = true := by simpa [Method.isConstructor] using reserved
    simp only [nameSegment, constructs, if_true]
    constructor
    · intro name
      cases name with
      | constructor _ component => rw [lastComponent_iff.mp component]
      | other unreserved => exact absurd reserved unreserved
    · rintro rfl
      exact .constructor reserved (lastComponent_iff.mpr rfl)
  · have plain : method.isConstructor = false := by simpa [Method.isConstructor] using reserved
    simp only [nameSegment, plain, Bool.false_eq_true, if_false]
    constructor
    · intro name
      cases name with
      | constructor named => exact absurd named reserved
      | other _ => rfl
    · rintro rfl
      exact .other reserved

/-- Groups are put together in one way. -/
theorem groupsLine_iff {groups : List (List Segment)} {line : List Segment} :
    GroupsLine groups line ↔ line = listSeparator.intercalate groups := by
  constructor
  · intro grouped
    induction grouped with
    | none => rfl
    | last => simp
    | more _ ih => rw [List.intercalate_cons_cons, ← ih, listSeparator]
  · rintro rfl
    induction groups with
    | nil => exact .none
    | cons first rest ih =>
      cases rest with
      | nil => simpa using GroupsLine.last
      | cons second others =>
        -- The separator stands between the first group and all that come behind it.
        rw [List.intercalate_cons_cons]
        exact .more ih

/-- One more group comes behind the others, with a separator if there are any. -/
theorem intercalate_concat (groups : List (List Segment)) (group : List Segment) :
    listSeparator.intercalate (groups ++ [group]) =
      listSeparator.intercalate groups ++ (if groups = [] then [] else listSeparator) ++ group := by
  induction groups with
  | nil => simp
  | cons first rest ih =>
    cases rest with
    | nil => simp
    | cons second others =>
      simp only [List.cons_append, List.intercalate_cons_cons] at ih ⊢
      simp [ih]

/-- The signature of a method is the one line that has its layout, and with one more parameter it
is the same line but for the separator, if there are parameters before, and the group of that
parameter in front of the last parenthesis. -/
theorem signatureSegments_layout (flags : SignatureFlags) (method : Method) :
    (∀ line, SignatureLine flags method line ↔ line = signatureSegments flags method) ∧
      ∀ parameter, ∃ front, signatureSegments flags method = front ++ [.mark ")"] ∧
        signatureSegments flags (method.withParameter parameter) =
          front ++ (if method.parameters = [] then [] else [.mark ",", .space]) ++
            parameterSegments flags parameter ++ [.mark ")"] := by
  refine ⟨fun line => ⟨fun layout => ?_, ?_⟩, fun parameter => ⟨_, rfl, ?_⟩⟩
  · -- Each part is the one that is shown.
    obtain ⟨returned, owned, named, grouped⟩ := layout
    rw [returnLine_iff.mp returned, ownerLine_iff.mp owned, nameLine_iff.mp named,
      groupsLine_iff.mp grouped]
    rfl
  · rintro rfl
    exact .parts (returnLine_iff.mpr rfl) (ownerLine_iff.mpr rfl) (nameLine_iff.mpr rfl)
      (groupsLine_iff.mpr rfl)
  · -- All parts but the list of parameters are the same.
    have list := intercalate_concat (method.parameters.map (parameterSegments flags))
      (parameterSegments flags parameter)
    have front : returnSegments flags (method.withParameter parameter) = returnSegments flags method ∧
        ownerSegments flags (method.withParameter parameter) = ownerSegments flags method ∧
        nameSegment (method.withParameter parameter) = nameSegment method := ⟨rfl, rfl, rfl⟩
    rw [signatureSegments, front.1, front.2.1, front.2.2, Method.withParameter, List.map_append,
      List.map_singleton, list]
    simp [listSeparator]

end BreakpointGlyph
