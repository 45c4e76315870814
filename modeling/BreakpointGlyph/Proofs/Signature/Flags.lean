import BreakpointGlyph.Proofs.Signature.Parts

/-! Under more flags that agree on keywords, signatures show all that fewer flags show. -/

namespace BreakpointGlyph

/-! Related signatures -/

/-- A relation of lines that may be put together, and that a line without namespaces has to
itself. -/
structure Compositional (related : List Segment → List Segment → Prop) : Prop where
  plain : ∀ {line : List Segment}, (∀ segment ∈ line, segment.color ≠ .namespaceName) →
    related line line
  append : ∀ {front fuller back fullerBack : List Segment}, related front fuller →
    related back fullerBack → related (front ++ back) (fuller ++ fullerBack)

/-- Two sets of flags under which each part of a signature that a flag shows or hides is related to
the same part under the other flags. -/
structure RelatedParts (related : List Segment → List Segment → Prop)
    (flags more : SignatureFlags) : Prop extends Compositional related where
  parameterTypes : RelatedUnder related flags.parameterTypes more.parameterTypes
  parameterNames : RelatedUnder related flags.parameterNames more.parameterNames
  ownerTypes : RelatedUnder related flags.ownerTypes more.ownerTypes
  returnTypes : RelatedUnder related flags.returnTypes more.returnTypes
  namespaces : ∀ name : List Char,
    related (if flags.namespaces then dottedSegments .namespaceName name ++ [.mark "."] else [])
      (if more.namespaces then dottedSegments .namespaceName name ++ [.mark "."] else [])
  typeKeywords : flags.typeKeywords = more.typeKeywords

variable {related : List Segment → List Segment → Prop} {flags more : SignatureFlags}

/-- Related parts are parts that can be compared, whether a keyword is shown or not. -/
theorem RelatedParts.comparison (parts : RelatedParts related flags more) :
    Comparison related flags more where
  empty := parts.plain (by simp)
  single other _ := parts.plain (by simpa using other)
  append := parts.append
  parameterTypes := parts.parameterTypes
  parameterNames := parts.parameterNames
  ownerTypes := parts.ownerTypes
  returnTypes := parts.returnTypes
  namespaces := parts.namespaces
  bare element names := by
    have same : shownKeyword? flags element = shownKeyword? more element := by
      rw [shownKeyword?, shownKeyword?, parts.typeKeywords]
    rw [bareSegments, bareSegments, same]
    cases shownKeyword? more element with
    | none => exact names
    | some keyword => exact parts.plain (by simp)

/-- Signatures are related, as all of their parts are. -/
theorem RelatedParts.signature (parts : RelatedParts related flags more) (method : Method) :
    related (signatureSegments flags method) (signatureSegments more method) :=
  parts.comparison.signature method

/-! More flags -/

/-- A part that is shown under some flag is shown under each flag that follows from it. -/
theorem sublist_under {shown wider : Bool} (follows : shown = true → wider = true) :
    RelatedUnder List.Sublist shown wider := by
  intro line fuller sublist
  cases shown with
  | false => exact List.nil_sublist _
  | true => simpa [follows rfl] using sublist

/-- More flags only add segments: what is written under some flags is written, in its order, under
all flags that contain them and agree with them on keywords. -/
theorem signatureSegments_sublist (within : flags.Within more)
    (keywords : flags.typeKeywords = more.typeKeywords) (method : Method) :
    (signatureSegments flags method).Sublist (signatureSegments more method) := by
  -- Lines with more segments anywhere may be put together, and more flags give such lines.
  have parts : RelatedParts List.Sublist flags more :=
    { plain := fun _ => .refl _
      append := .append
      parameterTypes := sublist_under within.parameterTypes
      parameterNames := sublist_under within.parameterNames
      ownerTypes := sublist_under within.ownerTypes
      returnTypes := sublist_under within.returnTypes
      namespaces := fun _ => sublist_under within.namespaces (.refl _)
      typeKeywords := keywords }
  exact parts.signature method

/-- Parameter names without types are found between all that the default flags show. -/
theorem signatureSegments_sublist_names :
    let method : Method :=
      ⟨⟨.ofFile "App.dll", ⟨0x06000001⟩⟩, "N.S", "A.B", "M",
        [⟨"L`1<System.Int32[,]>", some "x"⟩, ⟨"T", none⟩], some "System.Void"⟩
    let line : List Segment :=
      [⟨.typeName, "A"⟩, .mark ".", ⟨.typeName, "B"⟩, .mark ".", ⟨.methodName, "M"⟩, .mark "(",
        ⟨.parameterName, "x"⟩, .mark ",", .space, .mark ")"]
    (SignatureFlags.ofBits 0x26).Within (.ofBits 0x3F) ∧
      (SignatureFlags.ofBits 0x26).typeKeywords = (SignatureFlags.ofBits 0x3F).typeKeywords ∧
      signatureSegments (.ofBits 0x26) method = line ∧
      line.Sublist (signatureSegments (.ofBits 0x3F) method) := by
  intro method line
  have within : (SignatureFlags.ofBits 0x26).Within (.ofBits 0x3F) :=
    SignatureFlags.ofBits_within (by decide)
  have shown : signatureSegments (.ofBits 0x26) method = line := by decide +kernel
  exact ⟨within, rfl, shown, shown ▸ signatureSegments_sublist within rfl method⟩

end BreakpointGlyph
