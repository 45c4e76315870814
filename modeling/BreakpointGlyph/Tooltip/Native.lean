import BreakpointGlyph.Tooltip.Event
import BreakpointGlyph.Tooltip.Label
import BreakpointGlyph.Tooltip.Statement

/-! The tooltip of a native location: five segments, then the method of the statement there. -/

namespace BreakpointGlyph

/-- A question put to a viewer: which statement of a method covers an IL offset. -/
structure StatementQuery where
  method : MethodId
  ilOffset : UInt32
deriving DecidableEq, Repr

/-- What one part of a tooltip appends, asks and logs. -/
structure GlyphOutput where
  segments : List Segment := []
  queries : List StatementQuery := []
  events : List GlyphEvent := []
deriving DecidableEq, Repr

/-- A segment of plain text made from a template. -/
def labelSegment (template : String) (arguments : List String) : Segment :=
  ⟨.text, fillTemplate template arguments⟩

/-- The first five segments: position, IL offset and address, with spaces between them. -/
def nativeHeading (labels : GlyphLabels) (location : NativeLocation) (position : CursorPosition) :
    List Segment :=
  [labelSegment labels.lineCharacter [position.shownLine.repr, position.shownCharacter.repr],
    .space,
    labelSegment labels.ilOffset [ilOffsetText location.mapping location.ilOffset],
    .space,
    labelSegment labels.nativeAddress [location.address.text]]

/-- The method of a statement in quotes and parentheses, written by the chosen decompiler. -/
def quotedMethod (decompiler : Decompiler) (statement : MethodStatement) : List Segment :=
  ⟨.text, " ('"⟩ :: decompiler.methodSegments .all statement.method ++ [⟨.text, "')"⟩]

/-- What follows the heading: the method of the statement at the location, if the view knows it. -/
def nativeMethodPart (service : DecompilerService) (location : NativeLocation) (view : TextView) :
    GlyphOutput :=
  match view.viewer with
  | none => ⟨[], [], [.noViewer]⟩
  | some viewer =>
    let query : StatementQuery := ⟨location.methodId, location.ilOffset⟩
    match viewer.find? query.method query.ilOffset with
    | none => ⟨[], [query], [.noStatement query.method query.ilOffset]⟩
    | some statement =>
      let (decompiler, source) := selectDecompiler viewer.decompiler service
      ⟨quotedMethod decompiler statement, [query], [.writingMethod decompiler.name source]⟩

/-- The whole tooltip of a native location. -/
def nativeOutput (service : DecompilerService) (labels : GlyphLabels) (location : NativeLocation)
    (view : TextView) (position : CursorPosition) : GlyphOutput :=
  let methodPart := nativeMethodPart service location view
  ⟨nativeHeading labels location position ++ methodPart.segments, methodPart.queries,
    methodPart.events⟩

end BreakpointGlyph
