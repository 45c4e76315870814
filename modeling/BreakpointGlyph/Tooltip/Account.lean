import BreakpointGlyph.Tooltip.Call
import BreakpointGlyph.Tooltip.Leaves

/-! The account of a description: which leaf handled it, what was looked up, and what was traced. -/

namespace BreakpointGlyph

/-- An event is a trace if its record has the most talkative level. -/
def GlyphEvent.isTrace (event : GlyphEvent) : Bool :=
  event.record.level == .trace

/-- Some output, with no other events than traces. -/
def GlyphOutput.traced (output : GlyphOutput) : GlyphOutput :=
  ⟨output.segments, output.queries, output.events.filter GlyphEvent.isTrace⟩

/-- Several outputs, one behind the other. -/
def GlyphOutput.concat (outputs : List GlyphOutput) : GlyphOutput :=
  outputs.foldr GlyphOutput.append {}

section

variable (location : BreakpointLocation) (view : TextView) (position : CursorPosition)

/-- What a leaf puts out about a location, with no other events than traces. -/
def GlyphFormatter.tracedOutput (leaf : GlyphFormatter) : GlyphOutput :=
  (leaf.describe location view position).output.traced

/-- The leaves that are asked about a location: those in front of the one that handles it, and that
one if there is any. -/
def askedAmong (leaves : List GlyphFormatter) : List GlyphFormatter :=
  leaves.takeWhile (fun leaf => !leaf.handles location view position) ++
    (leaves.find? (·.handles location view position)).toList

/-- The leaf of a tree that handles a location: the first one that does. -/
def GlyphFormatter.handler? (formatter : GlyphFormatter) : Option GlyphFormatter :=
  formatter.leaves.find? (·.handles location view position)

/-- The leaves of a tree that decline a location before it is handled. -/
def GlyphFormatter.decliners (formatter : GlyphFormatter) : List GlyphFormatter :=
  formatter.leaves.takeWhile fun leaf => !leaf.handles location view position

/-- What those leaves put out all the same, with no other events than traces. -/
def GlyphFormatter.declined (formatter : GlyphFormatter) : GlyphOutput :=
  .concat ((formatter.decliners location view position).map
    (·.tracedOutput location view position))

/-- The formatters in a tree that a host supplies look nothing up. -/
def GlyphFormatter.LookupFree (formatter : GlyphFormatter) : Prop :=
  ∀ answer, .custom answer ∈ formatter.leaves → (answer location view position).output.queries = []

end

/-- What a formatter of native locations looks up, traces and quotes go together: it asks a viewer
for the statement at the location if there is a viewer, and quotes what it is told. -/
structure NativeAccount (service : DecompilerService) (location : NativeLocation) (view : TextView)
    (queries : List StatementQuery) (trace : GlyphEvent) (quotation : List Segment) : Prop where
  unasked : view.viewer = none → queries = []
  asked : view.viewer ≠ none → queries = [⟨location.methodId, location.ilOffset⟩]
  noViewer : trace.record.message = "No document viewer bound to the view, skipping statement" ↔
    view.viewer = none
  noStatement : trace.record.message = "No statement at IL offset" ↔
    view.viewer ≠ none ∧ view.statement? location.methodId location.ilOffset = none
  writingMethod : trace.record.message = "Writing statement method" ↔
    view.statement? location.methodId location.ilOffset ≠ none
  unanswered : view.viewer ≠ none →
    view.statement? location.methodId location.ilOffset = none →
      trace = .noStatement location.methodId location.ilOffset
  unquoted : view.statement? location.methodId location.ilOffset = none → quotation = []
  quoted : ∀ statement, view.statement? location.methodId location.ilOffset = some statement →
    ∃ decompiler source, trace = .writingMethod decompiler.name source ∧
      decompiler = view.tabDecompiler?.getD service.defaultDecompiler ∧
      (source = .tab ↔ view.tabDecompiler? ≠ none) ∧
      quotation =
        ⟨.text, " ('"⟩ :: decompiler.methodSegments .all statement.method ++ [⟨.text, "')"⟩]

end BreakpointGlyph
