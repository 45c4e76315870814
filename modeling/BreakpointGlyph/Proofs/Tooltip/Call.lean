import BreakpointGlyph.Tooltip.Call

/-! What a native formatter appends falls into two parts, and neither tells what belongs to the
other. -/

namespace BreakpointGlyph

/-- A call puts the tooltip of its location behind what is there, and handles every location. -/
theorem NativeCall.write_eq (call : NativeCall) (earlier : GlyphOutput) :
    call.write earlier = ⟨true, earlier.append
      (nativeOutput call.service call.labels call.location call.view call.position)⟩ := by
  rw [write, GlyphFormatter.write]

/-- A call writes a heading, and then the part about the method. -/
theorem NativeCall.segments_eq (call : NativeCall) :
    call.segments = nativeHeading call.labels call.location call.position ++
      (nativeMethodPart call.service call.location call.view).segments := by
  rw [segments, write_eq]
  simp [GlyphOutput.append, nativeOutput]

/-- The first part of what a call writes shows its place. -/
theorem NativeCall.heading_eq (call : NativeCall) :
    call.heading = nativeHeading call.labels call.location call.position := by
  -- It has five segments whatever it shows.
  rw [heading, segments_eq]
  exact List.take_left' rfl

/-- The second part of what a call writes quotes the method of the statement, if there is one. -/
theorem NativeCall.quotation_eq (call : NativeCall) :
    call.quotation =
      match call.statement? with
      | none => []
      | some statement =>
        quotedMethod (call.view.tabDecompiler?.getD call.service.defaultDecompiler) statement := by
  have behind :
      call.quotation = (nativeMethodPart call.service call.location call.view).segments := by
    rw [quotation, segments_eq]
    exact List.drop_left' rfl
  -- Without a viewer, or without an answer from it, nothing is written.
  rw [behind, statement?, TextView.statement?, TextView.tabDecompiler?, nativeMethodPart]
  cases call.view.viewer with
  | none => rfl
  | some viewer =>
    simp only [Option.bind_some]
    cases viewer.find? call.location.methodId call.location.ilOffset with
    | none => rfl
    | some statement => cases viewer.decompiler <;> rfl

/-- A call puts its heading and its quotation behind the segments that are there. -/
theorem NativeCall.segments_write (call : NativeCall) (earlier : GlyphOutput) :
    (call.write earlier).output.segments =
      earlier.segments ++ (call.heading ++ call.quotation) := by
  -- The two parts are all that the call writes.
  rw [heading, quotation, List.take_append_drop, segments_eq, write_eq]
  rfl

/-- An IL offset that the mapping does not give is not shown. -/
theorem ilOffsetText_congr {mapping : IlMapping} {ilOffset other : UInt32}
    (same : mapping.hasIlOffset = true → ilOffset = other) :
    ilOffsetText mapping ilOffset = ilOffsetText mapping other := by
  -- Only two of the kinds look at the offset.
  cases mapping with
  | exact | approximate => rw [same rfl]
  | unknown | prolog | epilog | noInfo | unmappedAddress => rfl

/-- The text of an address shows the number of the address. -/
theorem NativeLocation.text_address (location : NativeLocation) :
    location.address.text = hexText 8 location.addressNumber := by
  rw [Address.text, location.toNat_address]

/-- Calls for the same place have the same heading. -/
theorem NativeCall.SamePlace.heading {call other : NativeCall} (same : call.SamePlace other) :
    call.heading = other.heading := by
  have offsets : ilOffsetText call.location.mapping call.location.ilOffset =
      ilOffsetText other.location.mapping other.location.ilOffset := by
    rw [← same.mapping]
    exact ilOffsetText_congr same.ilOffset
  -- The base and the offset are shown as one address.
  simp only [heading_eq, nativeHeading, same.labels, same.position, offsets,
    NativeLocation.text_address, same.address]

/-- Calls for the same method find the same statement. -/
theorem NativeCall.SameMethod.statement? {call other : NativeCall} (same : call.SameMethod other) :
    call.statement? = other.statement? := by
  have methods : call.location.methodId = other.location.methodId := by
    rw [NativeLocation.methodId, NativeLocation.methodId, same.module, same.token]
  rw [NativeCall.statement?, NativeCall.statement?, same.view.statements, methods, same.ilOffset]

/-- Calls for the same method have the same quotation. -/
theorem NativeCall.SameMethod.quotation {call other : NativeCall} (same : call.SameMethod other) :
    call.quotation = other.quotation := by
  rw [quotation_eq, quotation_eq, ← same.statement?, ← same.view.decompiler]
  cases found : call.statement? with
  | none => rfl
  | some statement =>
    cases tab : call.view.tabDecompiler? with
    | some decompiler => rfl
    | none =>
      -- This is where the service is needed.
      rw [same.service tab (by simp [found])]

/-- A call handles its location and adds a heading of five segments and a quotation to what is
there; the quotation is a quoted text if there is a statement, and empty if not. The heading tells
nothing but the place: it is the same for calls that agree on that. The quotation tells nothing but
the method: it is the same for calls that agree on that, whatever else they differ in. -/
theorem NativeCall.parts_separate (call other : NativeCall) :
    (∀ earlier, (call.write earlier).handled = true ∧
        (call.write earlier).output.segments =
          earlier.segments ++ call.heading ++ call.quotation) ∧
      call.heading.length = 5 ∧
      (call.statement? = none ∧ call.quotation = [] ∨
        call.statement? ≠ none ∧ ∃ method : List Segment,
          call.quotation = ⟨.text, " ('"⟩ :: method ++ [⟨.text, "')"⟩]) ∧
      (call.SamePlace other → call.heading = other.heading) ∧
      (call.SameMethod other → call.quotation = other.quotation) := by
  refine ⟨fun earlier => ?_, ?_, ?_, fun same => same.heading, fun same => same.quotation⟩
  · rw [List.append_assoc, ← call.segments_write, write_eq]
    exact ⟨rfl, rfl⟩
  · rw [heading_eq]
    rfl
  · rw [quotation_eq]
    cases call.statement? with
    | none => exact .inl ⟨rfl, rfl⟩
    | some statement => exact .inr ⟨by simp, _, rfl⟩

/-- A call in a view of a document that knows the statement and has a decompiler of its own. -/
def shownCall : NativeCall where
  service := {}
  labels := {}
  location :=
    { module := .ofFile "App.dll", token := ⟨0x06000001⟩, ilOffset := 0x2A, mapping := .exact,
      base := ⟨0x400000⟩, nativeOffset := 0x10 }
  view := .decompiled
    { statements :=
        [⟨⟨⟨.ofFile "App.dll", ⟨0x06000001⟩⟩, "App", "Program", "Main", [], none⟩, 0, 0x2A⟩]
      decompiler := some .signaturePrinter }
  position := ⟨4, 8⟩

/-- The same place in a view of plain text, reached from another base past the last address. -/
def plainCall : NativeCall where
  service := ⟨⟨"IL", fun _ _ => []⟩⟩
  labels := {}
  location :=
    { module := .ofDynamic "App.dll", token := ⟨0x06000002⟩, ilOffset := 0x2A, mapping := .exact,
      base := ⟨0xFFFFFFFFFFFFFFFF⟩, nativeOffset := 0x400011 }
  view := .plain
  position := ⟨4, 8⟩

/-- The same statement at a place that maps to it in no known way. -/
def unmappedCall : NativeCall where
  service := ⟨⟨"IL", fun _ _ => []⟩⟩
  labels := { ilOffset := "IL \x7b0\x7d" }
  location := { shownCall.location with mapping := .noInfo, base := ⟨0⟩, nativeOffset := 0 }
  view := shownCall.view
  position := ⟨0, 0⟩

/-- The heading survives a change of method and view, and the quotation one of place. -/
theorem NativeCall.parts_separate_shown :
    shownCall.SamePlace plainCall ∧ shownCall.SameMethod unmappedCall ∧
      shownCall.heading = plainCall.heading ∧ shownCall.quotation = unmappedCall.quotation ∧
      plainText unmappedCall.quotation = " ('App.Program.Main()')" := by
  have place : shownCall.SamePlace plainCall := ⟨rfl, rfl, rfl, fun _ => rfl, by decide⟩
  have method : shownCall.SameMethod unmappedCall := by
    refine ⟨rfl, rfl, rfl, ⟨fun _ _ => rfl, rfl⟩, fun missing => ?_⟩
    -- The document has a decompiler of its own, so the services may differ.
    exact absurd (congrArg Option.isSome missing) (by decide)
  obtain ⟨_, _, _, heading, _⟩ := NativeCall.parts_separate shownCall plainCall
  obtain ⟨_, _, _, _, quotation⟩ := NativeCall.parts_separate shownCall unmappedCall
  have written : plainText unmappedCall.quotation = " ('App.Program.Main()')" := by
    rw [quotation_eq]
    decide +kernel
  exact ⟨place, method, heading place, quotation method, written⟩

end BreakpointGlyph
