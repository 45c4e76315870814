import BreakpointGlyph.Disk.Store
import BreakpointGlyph.Logging.Settings

/-! The log file is checked before anything is logged: its directory, its name, then itself. -/

namespace BreakpointGlyph

/-- A disk after the log was set up, and the error that stopped it if there was one. -/
structure LogStart where
  disk : Disk
  error? : Option LoggingError

/-- The path by which a log file is opened: its name in its directory, which has to be a text. -/
def logFilePath? (raw : RawText) : Option DiskPath :=
  let path := DiskPath.ofRaw raw
  (path.fileName?.bind RawText.text?).map fun name : String => path.parent.file name

/-- Makes the directory of a log file, then the file itself unless it is there. -/
def openLogFile (disk : Disk) (raw : RawText) : LogStart :=
  let directory := disk.ensureDirectories (DiskPath.ofRaw raw).parent
  match directory.fault?, logFilePath? raw with
  | some fault, _ => ⟨directory.disk, some (.directory fault)⟩
  | none, none => ⟨directory.disk, some (.invalidFile raw.shown)⟩
  | none, some path =>
    let file := directory.disk.openToAppend path
    match file.fault? with
    | some fault => ⟨file.disk, some (.fileOpen raw.shown fault)⟩
    | none => ⟨file.disk, none⟩

/-- Sets up the log: checks its file if there is one, then starts it, which can be done once. -/
def startLogging (started : Bool) (settings : LogSettings) (disk : Disk) : LogStart :=
  let checked := match settings.file with
    | some raw => openLogFile disk raw
    | none => ⟨disk, none⟩
  match checked.error? with
  | some error => ⟨checked.disk, some error⟩
  | none => ⟨checked.disk, if started then some .alreadyStarted else none⟩

end BreakpointGlyph
