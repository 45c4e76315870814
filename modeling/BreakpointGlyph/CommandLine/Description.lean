import BreakpointGlyph.CommandLine.Run

/-! What describing a location has to write, and what can keep it from that. -/

namespace BreakpointGlyph

/-- The type of a typed parameter: what is in front of its first colon, or all of it. -/
def typePart (text : String) : List Char :=
  trim (text.toList.takeWhile (· != ':'))

/-- The name of a typed parameter: what is behind its first colon. -/
def namePart (text : String) : List Char :=
  trim ((text.toList.dropWhile (· != ':')).drop 1)

/-- A typed parameter lacks its type if that is blank. -/
def lacksType (text : String) : Bool :=
  typePart text == []

/-- The parameter that a text stands for; it has no name if that is blank. -/
def Parameter.typed (text : String) : Parameter where
  typeName := String.ofList (typePart text)
  name := if namePart text = [] then none else some (String.ofList (namePart text))

/-- The method that a request describes under a given name. -/
def DescribeRequest.describedMethod (request : DescribeRequest) (name : String) : Method where
  id := ⟨.ofFile request.module, ⟨request.token⟩⟩
  namespaceName := request.namespaceName
  declaringType := request.declaringType
  name := name
  parameters := request.parameters.map .typed
  returnType := request.returnType

/-- What is said about a method in the end: its whole signature, in quotes and parentheses. -/
def DescribeRequest.annotation (request : DescribeRequest) : String :=
  match request.method with
  | none => ""
  | some name =>
    " ('" ++ plainText (signatureSegments .all (request.describedMethod name)) ++ "')"

/-- The line that describes a location at a position. -/
def DescribeRequest.describedLine (request : DescribeRequest) (position : CursorPosition) :
    String :=
  String.join ["line ", (position.line + 1).repr, ", character ", (position.column + 1).repr, " ",
    ilOffsetText request.mapping request.ilOffset, " ",
    hexText 8 ((request.base.toNat + request.nativeOffset.toNat) % UInt64.size), request.annotation,
    "\n"]

section

variable (request : DescribeRequest) (disk : Disk)

/-- Where the cursor of a request is: at an offset in a file where both are given, and otherwise at
the line and the column. -/
inductive DescribeRequest.Located : CursorPosition → Prop where
  | inFile {path text : String} {offset : Nat} {position : CursorPosition} :
    request.source = some path → request.offset = some offset →
      disk.readText (.ofText path) = .ok text →
      (TextSnapshot.ofText text).positionAt offset = .ok position → Located position
  | onLine : request.source = none ∨ request.offset = none →
    Located ⟨request.line, request.column⟩

/-- The segments that a request describes its location with. -/
inductive DescribeRequest.Describes : List Segment → Prop where
  | found {position : CursorPosition} {view : TextView} : request.Located disk position →
    request.view = .ok view →
      Describes (commandFormatters.describe (.native request.location) view position).output.segments

/-- The file that a request names cannot be read as text. -/
def DescribeRequest.Unreadable (fault : FileFault) : Prop :=
  ∃ path, request.source = some path ∧ disk.readText (.ofText path) = .error fault

/-- The offset that a request names is behind the end of a file of the given length. -/
def DescribeRequest.Outside (offset length : Nat) : Prop :=
  ∃ path text, request.source = some path ∧ disk.readText (.ofText path) = .ok text ∧
    request.offset = some offset ∧ text.length = length ∧ length < offset

/-- A run fails for one of three reasons only, of which it reports the first, and then it has
written nothing. -/
structure DescribeRequest.FailsInOrder (run : CommandRun) : Prop where
  fails_iff : run.error? ≠ none ↔
    (∃ fault, request.Unreadable disk fault) ∨ (∃ offset length, request.Outside disk offset length) ∨
      ∃ text ∈ request.parameters, lacksType text = true
  unreadable : ∀ fault, request.Unreadable disk fault → run.error? = some (.io fault)
  outside : ∀ offset length, request.Outside disk offset length →
    run.error? = some (.offsetOutOfRange offset length)
  untyped : (¬∃ fault, request.Unreadable disk fault) →
    (¬∃ offset length, request.Outside disk offset length) →
      ∀ text, request.parameters.find? lacksType = some text →
        run.error? = some (.invalidArgument ("parameter without a type: " ++ text))
  silent : run.error? ≠ none → run.output = ""

end

end BreakpointGlyph
