import BreakpointGlyph.Disk.Route
import BreakpointGlyph.Program

/-! What becomes of the log before the arguments are read, and what a run may owe to it. -/

namespace BreakpointGlyph

/-- What becomes of a log: a filter whose parts cannot be cut out stops the program before a file is
checked, or the checks of the file fail, or the log is started. -/
inductive LogSetup where
  | stopped
  | failed (error : LoggingError) (left : Disk)
  | started (filter : LogFilter) (left : Disk)

/-- Sets up the log that an environment asks for. -/
def LogEnvironment.setUp (environment : LogEnvironment) (disk : Disk) : LogSetup :=
  let settings := LogSettings.resolve environment .warn
  match LogFilter.ofText? environment.filter settings.defaultLevel with
  | none => .stopped
  | some filter =>
    let start := startLogging false settings disk
    match start.error? with
    | some error => .failed error start.disk
    | none => .started filter start.disk

/-- The log that an environment asks for can be started. -/
def LogEnvironment.Starts (environment : LogEnvironment) (disk : Disk) : Prop :=
  ∃ filter left, environment.setUp disk = .started filter left

/-- What a caller learns from a run: its exit code, and what it has written. -/
def ProgramRun.result (run : ProgramRun) : Nat × String :=
  (run.exitCode, run.output)

/-- A file is there in which arguments ask for a position, if they do. -/
def HoldsSource (disk : Disk) (arguments : List String) : Prop :=
  ∀ request path, Command.ofArguments arguments = .ok (.describe request) →
    request.source = some path → disk.NamesFile (.ofText path)

/-- The steps of a description from its position on. -/
def DescribeRequest.stepsAt (request : DescribeRequest) (position : CursorPosition) :
    CommandSteps Unit := do
  logEvents [.describing position request.mapping]
  let view ← request.view
  let outcome := commandFormatters.describe (.native request.location) view position
  logEvents outcome.output.events
  logEvents [.formatted outcome.handled outcome.output.segments.length]
  writeText (request.write outcome.output.segments)

/-- The steps of a command on a disk that is another one after each event, as the disk is that has
the log on it. -/
def Command.stepsAmid (diskAfter : List GlyphEvent → Disk) : Command → CommandSteps Unit
  | .describe request => do
    let progress ← get
    let position ← request.position (diskAfter progress.events)
    request.stepsAt position
  | .mappings => writeText mappingLines

/-- Runs a command on a disk that is another one after each event. -/
def Command.runAmid (diskAfter : List GlyphEvent → Disk) (command : Command) : CommandRun :=
  match (command.stepsAmid diskAfter).run.run {} with
  | (.ok _, progress) => ⟨progress, none⟩
  | (.error error, progress) => ⟨progress, some error⟩

/-- The log is beside a run. The result is the same with any two logs that can be started, also if
one of them is written to the file in which a position is looked for: a command looks into the file
before anything is logged. A log that cannot be set up ends the run with nothing written, before the
arguments are read. -/
structure LogBeside (arguments : List String) (disk : Disk) : Prop where
  same : HoldsSource disk arguments → ∀ first second : LogEnvironment,
    first.Starts disk → second.Starts disk →
      (runProgram first arguments disk).result = (runProgram second arguments disk).result
  amid : ∀ command, Command.ofArguments arguments = .ok command →
    ∀ diskAfter, command.runAmid diskAfter = command.run (diskAfter [])
  failed : ∀ environment error left, LogEnvironment.setUp environment disk = .failed error left →
    runProgram environment arguments disk =
      ⟨1, "", some ("Failed to initialize logging: " ++ error.message), [], left⟩
  stopped : ∀ environment, LogEnvironment.setUp environment disk = .stopped →
    runProgram environment arguments disk = ⟨101, "", none, [], disk⟩

end BreakpointGlyph
