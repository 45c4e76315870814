import BreakpointGlyph.Disk.RawText

/-! Paths as steps through directories, absolute or from the working directory. -/

namespace BreakpointGlyph

/-- A step of a path: into a named entry, or up to the directory above. -/
inductive PathStep where
  | enter (name : RawText)
  | up
deriving DecidableEq, Repr

/-- A step of a path, and the number of bytes of the path up to its end. -/
structure PathPart where
  step : PathStep
  stop : Nat
deriving DecidableEq, Repr

/-- A path and the number of its bytes; one that ends in a slash or a dot can only mean a directory. -/
structure DiskPath where
  absolute : Bool
  parts : List PathPart
  directoryOnly : Bool
  length : Nat
deriving DecidableEq, Repr

/-- The byte between the pieces of a path. -/
def slashByte : UInt8 := 0x2F

/-- The byte that names of directories for themselves and the one above are made of. -/
def dotByte : UInt8 := 0x2E

/-- The step that a piece between slashes takes; an empty piece and a single dot take none. -/
def pathStep? (piece : List UInt8) : Option PathStep :=
  if piece = [] ∨ piece = [dotByte] then none
  else if piece = [dotByte, dotByte] then some .up
  else some (.enter ⟨piece⟩)

/-- The parts that pieces between slashes make, the first of which starts at a position. -/
def pathParts (start : Nat) : List (List UInt8) → List PathPart
  | [] => []
  | piece :: rest =>
    let stop := start + piece.length
    match pathStep? piece with
    | some step => ⟨step, stop⟩ :: pathParts (stop + 1) rest
    | none => pathParts (stop + 1) rest

/-- Reads a path. -/
def DiskPath.ofRaw (raw : RawText) : DiskPath :=
  let pieces := raw.bytes.splitOn slashByte
  ⟨raw.bytes.head? == some slashByte, pathParts 0 pieces,
    (pieces.getLast?.bind pathStep?).isNone, raw.size⟩

/-- Reads a path that is given as a text. -/
def DiskPath.ofText (text : String) : DiskPath :=
  .ofRaw text

/-- The path of a directory that ends with the last of some parts. -/
def DiskPath.toDirectory (absolute : Bool) (parts : List PathPart) : DiskPath :=
  ⟨absolute, parts, true, parts.getLast?.elim 0 PathPart.stop⟩

/-- The steps that a path takes. -/
def DiskPath.steps (path : DiskPath) : List PathStep :=
  path.parts.map PathPart.step

/-- The directory that a path leads to before its last step. -/
def DiskPath.parent (path : DiskPath) : DiskPath :=
  .toDirectory path.absolute path.parts.dropLast

/-- The path of a file in a directory: a slash and its name follow the path of the directory. -/
def DiskPath.file (directory : DiskPath) (name : RawText) : DiskPath :=
  let length := directory.length + 1 + name.size
  ⟨directory.absolute, directory.parts ++ [⟨.enter name, length⟩], false, length⟩

/-- The name that a path ends in, which the root, a dot and a step up do not have. -/
def DiskPath.fileName? (path : DiskPath) : Option RawText :=
  match path.steps.getLast? with
  | some (.enter name) => some name
  | some .up => none
  | none => none

/-- No file has a name with a NUL byte, so such a path is refused before it is followed. -/
def DiskPath.hasNul (path : DiskPath) : Bool :=
  path.steps.any fun step =>
    match step with
    | .enter name => name.bytes.contains 0
    | .up => false

/-- Dots in front of a name lengthen a path, but not that of its directory. -/
example : (DiskPath.ofText "a/././b").length = 7 ∧ (DiskPath.ofText "a/././b").parent.length = 1 := by
  decide +kernel

end BreakpointGlyph
