import BreakpointGlyph.Disk.Store

/-! Where a path leads step by step, and disks on which something has been added and nothing lost. -/

namespace BreakpointGlyph

/-- The place that a step leads to from a directory. -/
def DiskPlace.after (place : DiskPlace) : PathStep → DiskPlace
  | .up => place.dropLast
  | .enter name => place ++ [name]

/-- The place that steps lead to where every one of them starts from a directory. -/
def DiskPlace.walk (place : DiskPlace) (steps : List PathStep) : DiskPlace :=
  steps.foldl DiskPlace.after place

/-- The places that steps lead to on the way, one for each step. -/
def DiskPlace.stops (place : DiskPlace) : List PathStep → List DiskPlace
  | [] => []
  | step :: rest => place.after step :: DiskPlace.stops (place.after step) rest

/-- A step into a name that no entry can have, since it has too many bytes. -/
def PathStep.tooLong : PathStep → Bool
  | .up => false
  | .enter name => longestName < name.size

/-- The place that a path starts from. -/
def Disk.origin (disk : Disk) (path : DiskPath) : DiskPlace :=
  if path.absolute then [] else disk.workingDirectory

/-- The places along a path, each of them where a prefix of the path leads. -/
def Disk.stops (disk : Disk) (path : DiskPath) : List DiskPlace :=
  (disk.origin path).stops path.steps

/-- The place that a path is about. -/
def Disk.target (disk : Disk) (path : DiskPath) : DiskPlace :=
  (disk.origin path).walk path.steps

/-- There is a directory at a place. -/
def Disk.HasDirectory (disk : Disk) (place : DiskPlace) : Prop :=
  disk.node? place = some .directory

/-- There is a file at a place. -/
def Disk.HasFile (disk : Disk) (place : DiskPlace) : Prop :=
  ∃ content, disk.node? place = some (.file content)

/-- A file stands at a place along a path that is to be a directory. -/
def Disk.Barred (disk : Disk) (path : DiskPath) : Prop :=
  ∃ stop ∈ disk.stops path, disk.HasFile stop

/-- A prefix of a path is resolved, and leads to a file. -/
def Disk.MeetsFile (disk : Disk) (path : DiskPath) : Prop :=
  ∃ front stop, front <+: path.steps ∧ disk.follow (disk.origin path) front = .ok stop ∧
    disk.HasFile stop

/-- A path names a file that is there. -/
def Disk.NamesFile (disk : Disk) (path : DiskPath) : Prop :=
  ∃ place, disk.resolve path = .ok place ∧ disk.HasFile place

/-- A path names no file: it takes no step, as the root and a dot do, or ends with a step up. -/
def DiskPath.Nameless (path : DiskPath) : Prop :=
  path.steps = [] ∨ path.steps.getLast? = some .up

/-- A path has no text to name a file by: it names no file, or by a name that is not a text. -/
def DiskPath.LacksTextName (path : DiskPath) : Prop :=
  path.Nameless ∨ ∃ name, path.fileName? = some name ∧ ¬name.IsText

/-- A path within the limits of a disk. -/
structure DiskPath.Fits (path : DiskPath) : Prop where
  nulFree : path.hasNul = false
  short : path.length ≤ longestPath
  shortNames : ∀ step ∈ path.steps, step.tooLong = false

/-- A part of a path within the limits of a disk: a path may end there. -/
structure PathPart.Fits (part : PathPart) : Prop where
  nulFree : ∀ name, part.step = .enter name → 0 ∉ name.bytes
  short : part.stop ≤ longestPath
  shortName : part.step.tooLong = false

/-- The bytes of a path within the limits of a disk. -/
structure RawText.FitsPath (raw : RawText) : Prop where
  nulFree : 0 ∉ raw.bytes
  short : raw.size ≤ longestPath
  shortNames : ∀ step ∈ (DiskPath.ofRaw raw).steps, step.tooLong = false

/-- A disk on which nothing has been changed or removed, and only some entries have been added. -/
structure Disk.Grown (before after : Disk) (added : DiskPlace → DiskNode → Prop) : Prop where
  workingDirectory : after.workingDirectory = before.workingDirectory
  kept : ∀ place node, before.node? place = some node → after.node? place = some node
  new : ∀ place node, before.node? place = none → after.node? place = some node → added place node

/-- What becomes of a directory that is asked for: it is made where nothing is, left alone where it
is, and not made where a file is or where its path does not lead anywhere. -/
inductive Disk.DirectoryOutcome (disk : Disk) (path : DiskPath) : DiskAttempt → Prop where
  | unreached {fault : FileFault} (unresolved : disk.resolve path = .error fault) :
      DirectoryOutcome disk path ⟨disk, some fault⟩
  | missing (reached : disk.resolve path = .ok (disk.target path))
      (free : disk.node? (disk.target path) = none) :
      DirectoryOutcome disk path ⟨disk.add (disk.target path) .directory, none⟩
  | standing (reached : disk.resolve path = .ok (disk.target path))
      (directory : disk.HasDirectory (disk.target path)) : DirectoryOutcome disk path ⟨disk, none⟩
  | taken (reached : disk.resolve path = .ok (disk.target path))
      (file : disk.HasFile (disk.target path)) : DirectoryOutcome disk path ⟨disk, some .exists⟩

/-- What becomes of a file that is opened to append to it: it is left alone where it is, made empty
where nothing is, and not made where a directory is or where its path does not lead anywhere. -/
inductive Disk.AppendOutcome (disk : Disk) (path : DiskPath) : DiskAttempt → Prop where
  | unreached {fault : FileFault} (unresolved : disk.resolve path = .error fault) :
      AppendOutcome disk path ⟨disk, some fault⟩
  | missing (reached : disk.resolve path = .ok (disk.target path))
      (free : disk.node? (disk.target path) = none) :
      AppendOutcome disk path ⟨disk.add (disk.target path) (.file ByteArray.empty), none⟩
  | standing (reached : disk.resolve path = .ok (disk.target path))
      (file : disk.HasFile (disk.target path)) : AppendOutcome disk path ⟨disk, none⟩
  | taken (reached : disk.resolve path = .ok (disk.target path))
      (directory : disk.HasDirectory (disk.target path)) :
      AppendOutcome disk path ⟨disk, some .isDirectory⟩

/-- A disk has grown by directories along a path; if nothing has failed, there are directories all
along it. -/
structure Disk.Ensures (disk : Disk) (path : DiskPath) (attempt : DiskAttempt) : Prop where
  grown : disk.Grown attempt.disk fun place node => place ∈ disk.stops path ∧ node = .directory
  made : attempt.fault? = none → ∀ stop ∈ disk.stops path, attempt.disk.HasDirectory stop

end BreakpointGlyph
