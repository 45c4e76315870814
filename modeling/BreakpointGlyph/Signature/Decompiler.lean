import BreakpointGlyph.Signature.Printer

/-! Decompilers write methods; an open tab may bring its own, and a service has a default one. -/

namespace BreakpointGlyph

/-- A decompiler has a name and writes the signature of a method with given flags. -/
structure Decompiler where
  name : String
  methodSegments : SignatureFlags → Method → List Segment

/-- The decompiler that prints signatures from metadata alone. -/
def Decompiler.signaturePrinter : Decompiler :=
  ⟨"C#", signatureSegments⟩

/-- A service that hands out one decompiler where no tab has its own. -/
structure DecompilerService where
  defaultDecompiler : Decompiler := .signaturePrinter

/-- Where a chosen decompiler came from. -/
inductive DecompilerSource where
  | tab
  | serviceDefault
deriving DecidableEq, Repr

/-- The name of a source. -/
def DecompilerSource.name : DecompilerSource → String
  | .tab => "Tab"
  | .serviceDefault => "ServiceDefault"

/-- The decompiler of the tab is chosen where there is one, and the default otherwise. -/
def selectDecompiler (tab : Option Decompiler) (service : DecompilerService) :
    Decompiler × DecompilerSource :=
  match tab with
  | some decompiler => (decompiler, .tab)
  | none => (service.defaultDecompiler, .serviceDefault)

end BreakpointGlyph
