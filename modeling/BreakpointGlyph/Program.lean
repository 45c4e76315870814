import BreakpointGlyph.CommandLine.Run
import BreakpointGlyph.Logging.File
import BreakpointGlyph.Logging.Filter
import BreakpointGlyph.Text.Padded
import BreakpointGlyph.Text.Quoted

/-! A whole run of the program: the log is set up first, then the command line is read and run. -/

namespace BreakpointGlyph

/-- What a run of the program leaves behind. -/
structure ProgramRun where
  exitCode : Nat
  output : String
  complaint : Option String
  records : List LogRecord
  disk : Disk

/-- A run that stops at once, without a word of its own. -/
def ProgramRun.stopped (disk : Disk) : ProgramRun :=
  ⟨101, "", none, [], disk⟩

/-- The records of some events that a filter lets through. -/
def shownRecords (filter : LogFilter) (events : List GlyphEvent) : List LogRecord :=
  (events.map GlyphEvent.record).filter filter.admits

/-- What the program does once its log is set up; a usage error is told apart by its exit code. -/
def runArguments (filter : LogFilter) (arguments : List String) (disk : Disk) : ProgramRun :=
  match Command.ofArguments arguments with
  | .error usage =>
    if usage.isRequest then ⟨0, usage.message ++ "\n", none, [], disk⟩
    else ⟨2, "", some usage.message, [], disk⟩
  | .ok command =>
    let run := command.run disk
    let records := shownRecords filter run.events
    match run.error? with
    | none => ⟨0, run.output, none, records, disk⟩
    | some error => ⟨1, run.output, some ("Error: " ++ error.message), records, disk⟩

/-- Runs the program; a log filter that is none stops it before anything is done. -/
def runProgram (environment : LogEnvironment) (arguments : List String) (disk : Disk) :
    ProgramRun :=
  let settings := LogSettings.resolve environment .warn
  match LogFilter.ofText? environment.filter settings.defaultLevel with
  | none => .stopped disk
  | some filter =>
    let start := startLogging false settings disk
    match start.error? with
    | some error =>
      ⟨1, "", some ("Failed to initialize logging: " ++ error.message), [], start.disk⟩
    | none => runArguments filter arguments start.disk

/-- The location that the tour of the program describes. -/
def tourLocation : NativeLocation where
  module := .ofFile "HelloWorld.dll"
  token := ⟨0x06000001⟩
  ilOffset := 0x0C
  mapping := .approximate
  base := ⟨0x7FFA1C400000⟩
  nativeOffset := 0x3B

/-- The decompiled document that the tour shows. -/
def tourDocument : StatementMap :=
  let method : Method := ⟨tourLocation.methodId, "HelloWorld", "Program", "Main",
    [⟨"System.String[]", some "args"⟩], some "System.Void"⟩
  (StatementMap.withDecompiler {} .signaturePrinter).insert ⟨method, 0x0A, 0x13⟩

/-- A segment in two columns: its color, and its text in quotes. -/
def tourLine (segment : Segment) : String :=
  let colors : Column := ⟨some 12, none, some .left⟩
  "  " ++ colors.fill segment.color.name ++ " " ++ quote segment.text ++ "\n"

/-- The tour describes one location in plain text, then in a document, then by its segments. -/
def showTour (filter : LogFilter) (disk : Disk) : ProgramRun :=
  let described (view : TextView) : GlyphOutcome :=
    commandFormatters.describe (.native tourLocation) view ⟨11, 8⟩
  let plain := (described .plain).output
  let decompiled := (described (.decompiled tourDocument)).output
  ⟨0, plainText plain.segments ++ "\n" ++ plainText decompiled.segments ++ "\n" ++
      String.join (decompiled.segments.map tourLine), none,
    shownRecords filter (plain.events ++ decompiled.events), disk⟩

/-- Runs the tour, which is not prepared for a log that cannot be set up. -/
def runTour (environment : LogEnvironment) (disk : Disk) : ProgramRun :=
  let settings := LogSettings.resolve environment .warn
  match LogFilter.ofText? environment.filter settings.defaultLevel with
  | none => .stopped disk
  | some filter =>
    let start := startLogging false settings disk
    if start.error?.isSome then .stopped start.disk else showTour filter start.disk

end BreakpointGlyph
