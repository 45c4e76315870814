import BreakpointGlyph.Tooltip.Formatter

/-! Calls of a native formatter: the two parts of what they append, and what these depend on. -/

namespace BreakpointGlyph

/-- A native formatter that is asked to describe a native location. -/
structure NativeCall where
  service : DecompilerService
  labels : GlyphLabels
  location : NativeLocation
  view : TextView
  position : CursorPosition

/-- What becomes of a call behind the output that is there. -/
def NativeCall.write (call : NativeCall) (earlier : GlyphOutput) : GlyphOutcome :=
  (GlyphFormatter.native call.service call.labels).write (.native call.location) call.view
    call.position earlier

/-- The segments that a call writes where nothing has been put out yet. -/
def NativeCall.segments (call : NativeCall) : List Segment :=
  (call.write {}).output.segments

/-- The first five segments of a call. -/
def NativeCall.heading (call : NativeCall) : List Segment :=
  call.segments.take 5

/-- All segments of a call behind the first five. -/
def NativeCall.quotation (call : NativeCall) : List Segment :=
  call.segments.drop 5

/-- The answer of a view to a query, where it has a viewer that knows one. -/
def TextView.statement? (view : TextView) (method : MethodId) (ilOffset : UInt32) :
    Option MethodStatement :=
  view.viewer.bind fun viewer => viewer.find? method ilOffset

/-- The decompiler of the document that a view shows, where it has one of its own. -/
def TextView.tabDecompiler? (view : TextView) : Option Decompiler :=
  view.viewer.bind fun viewer => viewer.decompiler

/-- Two views that answer every query alike, and show documents with the same decompiler. A view
without a viewer is like one whose viewer knows nothing. -/
structure TextView.AnswersLike (view other : TextView) : Prop where
  statements : ∀ method ilOffset, view.statement? method ilOffset = other.statement? method ilOffset
  decompiler : view.tabDecompiler? = other.tabDecompiler?

/-- The statement at the location of a call, where its view knows one. -/
def NativeCall.statement? (call : NativeCall) : Option MethodStatement :=
  call.view.statement? call.location.methodId call.location.ilOffset

/-- Two calls that agree on labels, position, mapping and address, and on the IL offset if the
mapping gives one. -/
structure NativeCall.SamePlace (call other : NativeCall) : Prop where
  labels : call.labels = other.labels
  position : call.position = other.position
  mapping : call.location.mapping = other.location.mapping
  ilOffset : call.location.mapping.hasIlOffset = true →
    call.location.ilOffset = other.location.ilOffset
  address : call.location.addressNumber = other.location.addressNumber

/-- Two calls that agree on method, IL offset and view, and on the service if it is needed: for a
statement in a document without a decompiler of its own. -/
structure NativeCall.SameMethod (call other : NativeCall) : Prop where
  module : call.location.module = other.location.module
  token : call.location.token = other.location.token
  ilOffset : call.location.ilOffset = other.location.ilOffset
  view : call.view.AnswersLike other.view
  service : call.view.tabDecompiler? = none → call.statement? ≠ none → call.service = other.service

end BreakpointGlyph
