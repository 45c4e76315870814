import BreakpointGlyph.Disk.Route
import BreakpointGlyph.Logging.File

/-! What the checks of a log file may do to a disk, and what they answer. -/

namespace BreakpointGlyph

/-- What may be added to a disk for a log file: directories along the path of its own directory, and
the file that is named, empty. -/
inductive LogEntry (disk : Disk) (path : DiskPath) : DiskPlace → DiskNode → Prop where
  | directory {place : DiskPlace} (along : place ∈ disk.stops path.parent) :
      LogEntry disk path place .directory
  | file (named : ¬path.LacksTextName) :
      LogEntry disk path (disk.target path) (.file ByteArray.empty)

/-- What becomes of a log file: its directory is made, then its name is looked at, then it is opened.
The first of these that fails is reported. -/
inductive LogFileOutcome (disk : Disk) (shown : String) (path : DiskPath) : LogStart → Prop where
  | noDirectory {fault : FileFault}
      (failed : (disk.ensureDirectories path.parent).fault? = some fault) :
      LogFileOutcome disk shown path
        ⟨(disk.ensureDirectories path.parent).disk, some (.directory fault)⟩
  | noName (made : (disk.ensureDirectories path.parent).fault? = none)
      (lacking : path.LacksTextName) :
      LogFileOutcome disk shown path
        ⟨(disk.ensureDirectories path.parent).disk, some (.invalidFile shown)⟩
  | noFile {name : String} {fault : FileFault} {opened : DiskAttempt}
      (made : (disk.ensureDirectories path.parent).fault? = none)
      (named : path.fileName? = some name)
      (opening : (disk.ensureDirectories path.parent).disk.openToAppend (path.parent.file name) =
        opened)
      (failed : opened.fault? = some fault) :
      LogFileOutcome disk shown path ⟨opened.disk, some (.fileOpen shown fault)⟩
  | passed {name : String} {opened : DiskAttempt}
      (made : (disk.ensureDirectories path.parent).fault? = none)
      (named : path.fileName? = some name)
      (opening : (disk.ensureDirectories path.parent).disk.openToAppend (path.parent.file name) =
        opened)
      (succeeded : opened.fault? = none) : LogFileOutcome disk shown path ⟨opened.disk, none⟩

/-- A file at a place as it was before, or empty if there was nothing. -/
def Disk.KeepsFile (before after : Disk) (place : DiskPlace) : Prop :=
  ∃ content, after.node? place = some (.file content) ∧
    (before.node? place = some (.file content) ∨
      before.node? place = none ∧ content = ByteArray.empty)

/-- The checks of a log file, by what is on the disk before them and what they leave there. Nothing
is changed or removed. A file in the way of the directory is reported before a name that is missing
or no text, that before a directory at the place of the file, and else the checks are passed. -/
structure LogFileChecks (disk : Disk) (shown : String) (path : DiskPath) (left : Disk)
    (error? : Option LoggingError) : Prop where
  grown : disk.Grown left (LogEntry disk path)
  noDirectory : (∃ fault, error? = some (.directory fault)) ↔ disk.Barred path.parent
  met : disk.Barred path.parent ↔ left.MeetsFile path.parent
  barredBy : ∀ fault, error? = some (.directory fault) → fault = .notDirectory ∨ fault = .exists
  noName : error? = some (.invalidFile shown) ↔ ¬disk.Barred path.parent ∧ path.LacksTextName
  noFile : (∃ fault, error? = some (.fileOpen shown fault)) ↔
    ¬disk.Barred path.parent ∧ ¬path.LacksTextName ∧ left.HasDirectory (disk.target path)
  takenBy : ∀ fault, error? = some (.fileOpen shown fault) → fault = .isDirectory
  passed : error? = none ∨ error? = some .alreadyStarted ↔
    ¬disk.Barred path.parent ∧ ¬path.LacksTextName ∧ ¬left.HasDirectory (disk.target path)
  made : ¬disk.Barred path.parent → ∀ stop ∈ disk.stops path.parent, left.HasDirectory stop
  opened : ¬disk.Barred path.parent → ¬path.LacksTextName → ¬left.HasDirectory (disk.target path) →
    disk.KeepsFile left (disk.target path)

/-- What a log path leaves behind that is refused because it has no text to name a file by. There are
directories along the path of its directory by then, and all else is as it was. Nothing has been
changed or removed, and nothing at all has happened exactly if all these directories were there
before. -/
structure LeavesDirectories (disk : Disk) (path : DiskPath) (left : Disk) : Prop where
  lacking : path.LacksTextName
  made : ∀ stop ∈ disk.stops path.parent, left.HasDirectory stop
  elsewhere : ∀ place, place ∉ disk.stops path.parent → left.node? place = disk.node? place
  kept : ∀ place node, disk.node? place = some node → left.node? place = some node
  untouched : (∀ place, left.node? place = disk.node? place) ↔
    ∀ stop ∈ disk.stops path.parent, disk.HasDirectory stop

end BreakpointGlyph
