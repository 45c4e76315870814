import BreakpointGlyph.CommandLine.Command
import BreakpointGlyph.Disk.Store
import BreakpointGlyph.Location.Snapshot
import BreakpointGlyph.Text.Cut
import BreakpointGlyph.Tooltip.Formatter

/-! Running a command: what it writes, the events on the way, and why it fails if it does. -/

namespace BreakpointGlyph

/-- A parameter as typed: its type, then a colon and its name if it has one. -/
def Parameter.parse (text : String) : Except GlyphError Parameter :=
  let parts := cutAtFirst ':' text.toList
  let typeName := trim ((parts.map Prod.fst).getD text.toList)
  let name := trim ((parts.map Prod.snd).getD [])
  if typeName = [] then .error (.invalidArgument ("parameter without a type: " ++ text))
  else .ok ⟨String.ofList typeName, if name = [] then none else some (String.ofList name)⟩

/-- The location that a request names. -/
def DescribeRequest.location (request : DescribeRequest) : NativeLocation where
  module := .ofFile request.module
  token := ⟨request.token⟩
  ilOffset := request.ilOffset
  mapping := request.mapping
  base := ⟨request.base⟩
  nativeOffset := request.nativeOffset

/-- The position that a request names: an offset in a file where it gives both. -/
def DescribeRequest.position (request : DescribeRequest) (disk : Disk) :
    Except GlyphError CursorPosition :=
  match request.source, request.offset with
  | some path, some offset =>
    match disk.readText (DiskPath.ofText path) with
    | .error fault => .error (.io fault)
    | .ok text => (TextSnapshot.ofText text).positionAt offset
  | _, _ => .ok ⟨request.line, request.column⟩

/-- The method of a given name that a request describes. -/
def DescribeRequest.methodNamed (request : DescribeRequest) (name : String) :
    Except GlyphError Method := do
  let parameters ← request.parameters.mapM Parameter.parse
  return ⟨request.location.methodId, request.namespaceName, request.declaringType, name, parameters,
    request.returnType⟩

/-- The view that a request shows: its method covers all IL offsets, and none means plain text. -/
def DescribeRequest.view (request : DescribeRequest) : Except GlyphError TextView :=
  match request.method with
  | none => .ok .plain
  | some name => do
    let method ← request.methodNamed name
    let document : StatementMap := { decompiler := some .signaturePrinter }
    return .decompiled (document.insert ⟨method, 0, 0xFFFFFFFF⟩)

/-- A line for each segment: its color, a tab and its text. -/
def segmentLines (segments : List Segment) : String :=
  String.join (segments.map fun segment => segment.color.name ++ "\t" ++ segment.text ++ "\n")

/-- What a command has written and logged so far. -/
structure CommandProgress where
  output : String := ""
  events : List GlyphEvent := []

/-- Steps of a command, which write and log one after the other until one of them fails. -/
abbrev CommandSteps := ExceptT GlyphError (StateM CommandProgress)

/-- Writes a text behind what has been written. -/
def writeText (text : String) : CommandSteps Unit :=
  modify fun progress => ⟨progress.output ++ text, progress.events⟩

/-- Logs events behind those that have been logged. -/
def logEvents (events : List GlyphEvent) : CommandSteps Unit :=
  modify fun progress => ⟨progress.output, progress.events ++ events⟩

/-- The formatters that describe a location on the command line. -/
def commandFormatters : GlyphFormatter :=
  .registry [.native {} {}]

/-- Writes the outcome of a description as a line of text or as a line for each segment. -/
def DescribeRequest.write (request : DescribeRequest) (segments : List Segment) : String :=
  if request.segments then segmentLines segments else plainText segments ++ "\n"

/-- Describes a location: where it is and what is shown there come first, and either can fail. -/
def DescribeRequest.steps (request : DescribeRequest) (disk : Disk) : CommandSteps Unit := do
  let position ← request.position disk
  logEvents [.describing position request.mapping]
  let view ← request.view
  let outcome := commandFormatters.describe (.native request.location) view position
  logEvents outcome.output.events
  logEvents [.formatted outcome.handled outcome.output.segments.length]
  writeText (request.write outcome.output.segments)

/-- A line for each kind of mapping: its code, a tab and its name. -/
def mappingLines : String :=
  String.join (IlMapping.all.map fun mapping =>
    mapping.code.repr ++ "\t" ++ mapping.name ++ "\n")

/-- The steps of a command. -/
def Command.steps (disk : Disk) : Command → CommandSteps Unit
  | .describe request => request.steps disk
  | .mappings => writeText mappingLines

/-- What a command has written and logged in the end, and why it failed if it did. -/
structure CommandRun extends CommandProgress where
  error? : Option GlyphError

/-- The result of a run: what was written, or why the command failed. -/
def CommandRun.result (run : CommandRun) : Except GlyphError String :=
  match run.error? with
  | none => .ok run.output
  | some error => .error error

/-- Runs a command from the start. -/
def Command.run (disk : Disk) (command : Command) : CommandRun :=
  match (command.steps disk).run.run {} with
  | (.ok _, progress) => ⟨progress, none⟩
  | (.error error, progress) => ⟨progress, some error⟩

end BreakpointGlyph
