import BreakpointGlyph.Location.Breakpoint
import BreakpointGlyph.Location.Position
import BreakpointGlyph.Logging.Record
import BreakpointGlyph.Signature.Decompiler

/-! What happens while a location is described, event by event. -/

namespace BreakpointGlyph

/-- The things worth a log record. -/
inductive GlyphEvent where
  | describing (position : CursorPosition) (mapping : IlMapping)
  | noViewer
  | noStatement (method : MethodId) (ilOffset : UInt32)
  | writingMethod (decompiler : String) (source : DecompilerSource)
  | handledBy (index : Nat)
  | unhandled (formatters : Nat)
  | formatted (handled : Bool) (segments : Nat)
deriving DecidableEq, Repr

/-- A position with the names of its parts. -/
def CursorPosition.dump (position : CursorPosition) : String :=
  "CursorPosition \x7b line: " ++ position.line.repr ++ ", column: " ++ position.column.repr ++
    " \x7d"

/-- The record of an event. -/
def GlyphEvent.record : GlyphEvent → LogRecord
  | .describing position mapping =>
    ⟨.debug, "glyphfmt", "Describing native code location",
      [("position", .text position.dump), ("mapping", .text mapping.name)]⟩
  | .noViewer =>
    ⟨.trace, "glyphfmt_core::glyph::native",
      "No document viewer bound to the view, skipping statement", []⟩
  | .noStatement method ilOffset =>
    ⟨.trace, "glyphfmt_core::glyph::native", "No statement at IL offset",
      [("method", .text method.text), ("il_offset", .number ilOffset.toNat)]⟩
  | .writingMethod decompiler source =>
    ⟨.trace, "glyphfmt_core::glyph::native", "Writing statement method",
      [("decompiler", .text decompiler), ("source", .text source.name)]⟩
  | .handledBy index =>
    ⟨.debug, "glyphfmt_core::glyph", "Breakpoint location handled by glyph formatter",
      [("index", .number index)]⟩
  | .unhandled formatters =>
    ⟨.debug, "glyphfmt_core::glyph", "No glyph formatter handled the breakpoint location",
      [("formatters", .number formatters)]⟩
  | .formatted handled segments =>
    ⟨.debug, "glyphfmt", "Formatted location",
      [("handled", .flag handled), ("segments", .number segments)]⟩

end BreakpointGlyph
