import BreakpointGlyph.Disk.Fault
import BreakpointGlyph.Disk.Path

/-! A disk of directories and regular files, and the operations that a log file needs. -/

namespace BreakpointGlyph

/-- What stands at a place on a disk. -/
inductive DiskNode where
  | directory
  | file (content : ByteArray)

/-- A directory is told apart from a file. -/
def DiskNode.isDirectory : DiskNode → Bool
  | .directory => true
  | .file _ => false

/-- A place on a disk: the names on the way to it from the root. -/
abbrev DiskPlace := List RawText

/-- The entries of a disk, and the directory that relative paths start from. -/
structure Disk where
  entries : List (DiskPlace × DiskNode)
  workingDirectory : DiskPlace

/-- What stands at a place; the root is always a directory. -/
def Disk.node? (disk : Disk) (place : DiskPlace) : Option DiskNode :=
  if place = [] then some .directory else disk.entries.lookup place

/-- Puts an entry where there is none yet. -/
def Disk.add (disk : Disk) (place : DiskPlace) (node : DiskNode) : Disk :=
  ⟨disk.entries ++ [(place, node)], disk.workingDirectory⟩

/-- The most bytes that a name may have. -/
def longestName : Nat := 255

/-- Follows steps from a place; what is at the end need not exist, but all before it must. -/
def Disk.follow (disk : Disk) (place : DiskPlace) : List PathStep → Except FileFault DiskPlace
  | [] => .ok place
  | step :: rest =>
    match disk.node? place with
    | none => .error .notFound
    | some (.file _) => .error .notDirectory
    | some .directory =>
      match step with
      | .up => disk.follow place.dropLast rest
      | .enter name =>
        if longestName < name.size then .error .nameTooLong
        else disk.follow (place ++ [name]) rest

/-- The most bytes that a path may have. -/
def longestPath : Nat := 4095

/-- The place that a path leads to. -/
def Disk.resolve (disk : Disk) (path : DiskPath) : Except FileFault DiskPlace :=
  if path.hasNul then .error .nulInPath
  else if longestPath < path.length then .error .nameTooLong
  else disk.follow (if path.absolute then [] else disk.workingDirectory) path.steps

/-- A path that leads to a directory. -/
def Disk.isDirectory (disk : Disk) (path : DiskPath) : Bool :=
  match disk.resolve path with
  | .ok place => (disk.node? place).any DiskNode.isDirectory
  | .error _ => false

/-- Makes one directory, in a directory that is there, under a name that is free. -/
def Disk.makeDirectory (disk : Disk) (path : DiskPath) : Except FileFault Disk :=
  match disk.resolve path with
  | .error fault => .error fault
  | .ok place =>
    match disk.node? place with
    | some _ => .error .exists
    | none => .ok (disk.add place .directory)

/-- A disk after an attempt to change it, and why the attempt failed if it did. -/
structure DiskAttempt where
  disk : Disk
  fault? : Option FileFault

/-- Makes one directory, unless the path leads to a directory already. -/
def Disk.ensureDirectory (disk : Disk) (path : DiskPath) : DiskAttempt :=
  match disk.makeDirectory path with
  | .ok made => ⟨made, none⟩
  | .error fault => if disk.isDirectory path then ⟨disk, none⟩ else ⟨disk, some fault⟩

/-- Makes a directory given by its parts in reverse, and those above it that are missing. -/
def Disk.ensureParts (disk : Disk) (absolute : Bool) : List PathPart → DiskAttempt
  | [] => ⟨disk, none⟩
  | last :: above =>
    let path := DiskPath.toDirectory absolute (last :: above).reverse
    let first := disk.ensureDirectory path
    if first.fault? = some .notFound then
      let higher := disk.ensureParts absolute above
      if higher.fault? = none then higher.disk.ensureDirectory path else higher
    else first

/-- Makes the directory at a path and all those above it that are missing. -/
def Disk.ensureDirectories (disk : Disk) (path : DiskPath) : DiskAttempt :=
  disk.ensureParts path.absolute path.parts.reverse

/-- Opens a file to append to it; it is made empty if it is missing, and never shortened. -/
def Disk.openToAppend (disk : Disk) (path : DiskPath) : DiskAttempt :=
  match disk.resolve path with
  | .error fault => ⟨disk, some fault⟩
  | .ok place =>
    match disk.node? place with
    | some (.file _) => ⟨disk, none⟩
    | some .directory => ⟨disk, some .isDirectory⟩
    | none => ⟨disk.add place (.file ByteArray.empty), none⟩

/-- Reads a file that holds text. -/
def Disk.readText (disk : Disk) (path : DiskPath) : Except FileFault String :=
  match disk.resolve path with
  | .error fault => .error fault
  | .ok place =>
    match disk.node? place with
    | none => .error .notFound
    | some .directory => .error .isDirectory
    | some (.file content) =>
      if path.directoryOnly then .error .notDirectory
      else
        match String.fromUTF8? content with
        | some text => .ok text
        | none => .error .notText

end BreakpointGlyph
