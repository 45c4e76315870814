import BreakpointGlyph.CommandLine.Decoding
import BreakpointGlyph.CommandLine.Description

/-! Which options of a description go together, and what becomes of those that are accepted. -/

namespace BreakpointGlyph

/-- The options that an option is declared to exclude. -/
def DescribeOption.excluded : DescribeOption → List DescribeOption
  | .line => [.source]
  | .column => [.source]
  | _ => []

/-- Excluding goes both ways. -/
def DescribeOption.Excludes (option other : DescribeOption) : Prop :=
  other ∈ option.excluded ∨ option ∈ other.excluded

/-- The options that an option is declared to need. -/
def DescribeOption.needed : DescribeOption → List DescribeOption
  | .source => [.offset]
  | .offset => [.source]
  | .parameter => [.method]
  | .returnType => [.method]
  | _ => []

/-- Options go together if no two of them exclude each other, the one is there that is always
needed, and each has what it needs; but what another one excludes is not missed. -/
structure GoTogether (given : DescribeOption → Prop) : Prop where
  compatible : ∀ option other, given option → given other → ¬option.Excludes other
  based : given .base
  complete : ∀ option, ∀ other ∈ option.needed, given option →
    given other ∨ ∃ present, given present ∧ present.Excludes other

/-- A command line gives an option if there is a text for it. -/
def Gives (arguments : List String) (option : DescribeOption) : Prop :=
  givenTexts option arguments ≠ []

instance (arguments : List String) (option : DescribeOption) : Decidable (Gives arguments option) :=
  inferInstanceAs (Decidable (givenTexts option arguments ≠ []))

/-- The method that a request quotes is named by a command line, and has all parameters and the
return type that are given there. -/
structure DescribeRequest.Quotes (request : DescribeRequest) (arguments : List String)
    (method : Method) : Prop where
  named : givenTexts .method arguments = [method.name]
  parameters : method.parameters = (givenTexts .parameter arguments).map .typed
  returnType : method.returnType = (givenTexts .returnType arguments).head?
  printed : ∀ disk segments, request.Describes disk segments → ∃ heading,
    segments = heading ++ quotedMethod .signaturePrinter ⟨method, 0, 0xFFFFFFFF⟩

/-- What becomes of the options of a command line that is accepted. A file is named with an offset
in it, and without a line or a column. An offset is given with a file, unless a line or a column is
given too: then the line and the column are used, and the offset makes no difference. Parameters and
a return type are given with a method, and are those of the method that is quoted. -/
structure DescribeRequest.UsesOptions (request : DescribeRequest) (arguments : List String) :
    Prop where
  file : Gives arguments .source →
    Gives arguments .offset ∧ ¬Gives arguments .line ∧ ¬Gives arguments .column
  paired_iff : (Gives arguments .source ↔ Gives arguments .offset) ↔
    ¬(Gives arguments .offset ∧ (Gives arguments .line ∨ Gives arguments .column))
  fallback_iff : request.source = none ∨ request.offset = none ↔ ¬Gives arguments .source
  placed : ¬Gives arguments .source → ∀ disk,
    request.position disk = .ok ⟨request.line, request.column⟩
  ignored : ¬Gives arguments .source → ∀ disk offset,
    (Command.describe { request with offset }).run disk = (Command.describe request).run disk
  owned : Gives arguments .parameter ∨ Gives arguments .returnType → Gives arguments .method
  quoted : Gives arguments .method → ∃ method, request.Quotes arguments method

end BreakpointGlyph
