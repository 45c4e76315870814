import BreakpointGlyph.Disk.Fault

/-! Errors of describing a location, by cause, with one wording each. -/

namespace BreakpointGlyph

/-- Why a location cannot be described. -/
inductive GlyphError where
  | unknownMapping (code : Nat)
  | invalidMappingName (name : String)
  | offsetOutOfRange (offset length : Nat)
  | invalidArgument (reason : String)
  | invalidNumber (text : String)
  | io (fault : FileFault)
deriving DecidableEq, Repr

/-- The wording of an error. -/
def GlyphError.message : GlyphError → String
  | .unknownMapping code => "Unknown IL offset mapping code: " ++ code.repr
  | .invalidMappingName name => "Invalid IL offset mapping: " ++ name
  | .offsetOutOfRange offset length =>
    "Offset " ++ offset.repr ++ " is outside the snapshot (length " ++ length.repr ++ ")"
  | .invalidArgument reason => "Invalid argument: " ++ reason
  | .invalidNumber text => "Invalid number: " ++ text
  | .io fault => "IO error: " ++ fault.message

end BreakpointGlyph
