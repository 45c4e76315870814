import BreakpointGlyph.Logging.Line
import BreakpointGlyph.Program

/-! The program: it learns what it needs of the disk, and carries out what a run changes. -/

namespace BreakpointGlyph

/-- A place as the operating system writes it. -/
def placeText (place : DiskPlace) : String :=
  "/" ++ "/".intercalate (place.map RawText.shown)

/-- Looks what stands at a place: a directory, or a file that can be read. -/
def lookUpNode (place : DiskPlace) : IO (Option DiskNode) := do
  try
    let found ← IO.FS.realPath (placeText place)
    if ← found.isDir then
      return some .directory
    return some (.file (← IO.FS.readBinFile found))
  catch _ =>
    return none

/-- Learns what stands at every place that a path leads through. -/
def learnPath (disk : Disk) (text : String) : IO Disk := do
  let path := DiskPath.ofText text
  let mut known := disk
  let mut place := if path.absolute then [] else disk.workingDirectory
  for step in path.steps do
    place := match step with
      | .up => place.dropLast
      | .enter name => place ++ [name]
    if (known.node? place).isNone then
      if let some node ← lookUpNode place then
        known := known.add place node
  return known

/-- The part of the disk that a run with some environment and arguments may look at. -/
def learnDisk (environment : LogEnvironment) (arguments : List String) : IO Disk := do
  let here := (DiskPath.ofText (← IO.currentDir).toString).steps.filterMap fun step =>
    match step with
    | .enter name => some name
    | .up => none
  let above := (List.range (here.length + 1)).map fun count => (here.take count, DiskNode.directory)
  let logged ← learnPath ⟨above, here⟩ (environment.file.getD "")
  match Command.ofArguments arguments with
  | .ok (.describe request) => learnPath logged (request.source.getD "")
  | _ => return logged

/-- Makes an entry that a run has added. -/
def makeEntry (place : DiskPlace) : DiskNode → IO Unit
  | .directory => IO.FS.createDir (placeText place)
  | .file content => IO.FS.withFile (placeText place) .append fun handle => handle.write content

/-- Runs the program and carries out what the run has decided. -/
def runMain (arguments : List String) : IO UInt32 := do
  let environment : LogEnvironment :=
    ⟨← IO.getEnv "RUST_LOG", ← IO.getEnv "GLYPHFMT_LOG_FORMAT", ← IO.getEnv "GLYPHFMT_LOG_FILE"⟩
  let disk ← learnDisk environment arguments
  let run := runProgram environment arguments disk
  for (place, node) in run.disk.entries.drop disk.entries.length do
    makeEntry place node
  let settings := LogSettings.resolve environment .warn
  for record in run.records do
    IO.eprintln (record.line settings.format)
    if let some path := settings.file.bind logFilePath? then
      if let .ok place := run.disk.resolve path then
        IO.FS.withFile (placeText place) .append fun handle =>
          handle.putStr (record.line settings.format ++ "\n")
  if let some complaint := run.complaint then
    IO.eprintln complaint
  IO.print run.output
  return UInt32.ofNat run.exitCode

end BreakpointGlyph

/-- The entry point of the program. -/
def main (arguments : List String) : IO UInt32 :=
  BreakpointGlyph.runMain arguments
