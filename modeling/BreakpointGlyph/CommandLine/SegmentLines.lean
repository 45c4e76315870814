import BreakpointGlyph.CommandLine.Decoding
import BreakpointGlyph.CommandLine.Description

/-! Asking for segments in place of plain text, and reading the text back from the lines. -/

namespace BreakpointGlyph

/-- A command line with the request for segments in it: it stands behind the command, unless it is
there already. -/
def withSegments (arguments : List String) : List String :=
  if "--segments" ∈ arguments then arguments
  else arguments.take 1 ++ "--segments" :: arguments.drop 1

/-- A command line without the request for segments. -/
def withoutSegments (arguments : List String) : List String :=
  arguments.filter (· ≠ "--segments")

/-- The same options with or without the request for segments. -/
def GivenOptions.flagged (segments : Bool) (given : GivenOptions) : GivenOptions :=
  { given with segments }

/-- The same request for segments or for plain text. -/
def DescribeRequest.flagged (segments : Bool) (request : DescribeRequest) : DescribeRequest :=
  { request with segments }

/-- The options whose texts are shown as they are. -/
def shownOptions : List DescribeOption :=
  [.method, .declaringType, .namespaceName, .parameter, .returnType]

/-- A text without a line feed in it. -/
def SingleLine (text : String) : Prop :=
  '\n' ∉ text.toList

instance (text : String) : Decidable (SingleLine text) :=
  inferInstanceAs (Decidable ('\n' ∉ text.toList))

/-- The line of a segment. -/
def Segment.line (segment : Segment) : List Char :=
  (segment.color.name ++ "\t" ++ segment.text).toList

/-- The text of some lines, told by what stands behind the first tab of each. -/
def textBehindTabs (lines : List (List Char)) : String :=
  String.ofList (lines.flatMap fun line => ((cutAtFirst '\t' line).map Prod.snd).getD [])

/-- Two outputs for the same segments: one has a line for each of them, which a line feed ends, and
the other is what is read behind the first tabs of those lines. -/
structure SameSegments (segments : List Segment) (lined plain : String) : Prop where
  lines : lined.toList.splitOn '\n' = segments.map Segment.line ++ [[]]
  cut : ∀ segment ∈ segments,
    cutAtFirst '\t' segment.line = some (segment.color.name.toList, segment.text.toList)
  text : plain = textBehindTabs (lined.toList.splitOn '\n') ++ "\n"

end BreakpointGlyph
