import BreakpointGlyph.Logging.Checks
import BreakpointGlyph.Proofs.Disk.Directories

/-! The checks of a log file harm nothing that is on the disk, and answer by what they find there. -/

namespace BreakpointGlyph

/-- One of the outcomes of opening a log file is the one that there is. -/
theorem logFileOutcome (disk : Disk) (raw : RawText) :
    LogFileOutcome disk raw.shown (.ofRaw raw) (openLogFile disk raw) := by
  unfold openLogFile logFilePath?
  simp only
  cases made : (disk.ensureDirectories (DiskPath.ofRaw raw).parent).fault? with
  | some fault => exact .noDirectory made
  | none =>
    cases named : (DiskPath.ofRaw raw).fileName? with
    | none => exact .noName made (.inl (DiskPath.nameless_iff.mpr named))
    | some name =>
      simp only [Option.bind_some]
      cases read : name.text? with
      | none => exact .noName made (.inr ⟨name, named, RawText.text?_eq_none_iff.mp read⟩)
      | some text =>
        obtain rfl := RawText.text?_eq_some_iff.mp read
        simp only [Option.map_some]
        cases opened : ((disk.ensureDirectories (DiskPath.ofRaw raw).parent).disk.openToAppend
          ((DiskPath.ofRaw raw).parent.file text)).fault? with
        | some fault => exact .noFile made named rfl opened
        | none => exact .passed made named rfl opened

section

variable {disk : Disk} {shown : String} {name : RawText} {path : DiskPath} {start : LogStart}

/-- A file is looked for where its path says, also when directories have been made for it. -/
theorem Disk.Grown.target_file {after : Disk} {added : DiskPlace → DiskNode → Prop}
    (grown : disk.Grown after added) (named : path.fileName? = some name) :
    after.target (path.parent.file name) = disk.target path := by
  simp only [Disk.target, grown.origin_eq, DiskPath.steps_file named]
  rfl

/-- The last step of a file's path enters its name. -/
theorem DiskPath.steps_file_concat (path : DiskPath) (name : RawText) :
    (path.parent.file name).steps = path.parent.steps ++ [.enter name] := by
  simp [steps, file]

/-- Making its directory adds to a disk what may be added for a log file. -/
theorem Disk.grown_directories (disk : Disk) (path : DiskPath) :
    disk.Grown (disk.ensureDirectories path.parent).disk (LogEntry disk path) := by
  refine (disk.ensureDirectories_ensures path).grown.mono fun place node entry => ?_
  obtain ⟨along, rfl⟩ := entry
  exact .directory along

/-- Nothing is changed or removed by the checks of a log file. -/
theorem LogFileOutcome.grown (outcome : LogFileOutcome disk shown path start) :
    disk.Grown start.disk (LogEntry disk path) := by
  have made := disk.grown_directories path
  -- Where a file is opened, it is the only further entry.
  have opened {name : String} (named : path.fileName? = some name) :
      disk.Grown ((disk.ensureDirectories path.parent).disk.openToAppend
        (path.parent.file name)).disk (LogEntry disk path) := by
    refine made.trans ((Disk.appendOutcome (path.steps_file_concat name)).grown.mono ?_)
    rintro place node ⟨rfl, rfl⟩
    rw [made.target_file named]
    exact .file (DiskPath.not_lacksTextName named)
  cases outcome with
  | noDirectory _ => exact made
  | noName _ _ => exact made
  | noFile _ named opening _ => exact opening ▸ opened named
  | passed _ named opening _ => exact opening ▸ opened named

/-- Where the directory of a log file has been made, no file was in its way. -/
theorem Disk.not_barred_of_made
    (made : (disk.ensureDirectories path.parent).fault? = none) : ¬disk.Barred path.parent := by
  have ensured := disk.ensureDirectories_ensures path
  rw [← ensured.grown.barred_iff fun _ _ entry => entry.2]
  exact not_barred (ensured.grown.stops_eq path.parent ▸ ensured.made made)

/-- Where directories are made all along the path of a file's directory, no prefix of it leads to a
file. -/
theorem Disk.Grown.not_meetsFile {left : Disk} {added : DiskPlace → DiskNode → Prop}
    (grown : disk.Grown left added) (begun : disk.HasDirectory (disk.origin path))
    (way : ∀ stop ∈ disk.stops path.parent, left.HasDirectory stop) :
    ¬left.MeetsFile path.parent := by
  intro met
  -- Such a file would be at a place where a directory is.
  have barred := met.barred (grown.begun begun)
  exact not_barred (grown.stops_eq path.parent ▸ way) barred

/-- Where the directory of a log file cannot be made, a file is in its way. -/
theorem Disk.barred_of_unmade {fault : FileFault} (partsFit : ∀ part ∈ path.parts, part.Fits)
    (begun : disk.HasDirectory (disk.origin path))
    (failed : (disk.ensureDirectories path.parent).fault? = some fault) :
    disk.Barred path.parent := by
  have grown := (disk.ensureDirectories_ensures path).grown
  have met := (fault_of_ensureDirectories partsFit begun failed).2
  -- The file is met on the disk as it is left, to which no file has been added.
  exact (grown.barred_iff (fun _ _ entry => entry.2) _).mp (met.barred (grown.begun begun))

/-- A file is opened where the directory is made for it and its path is within the limits. -/
theorem Disk.resolve_file (made : (disk.ensureDirectories path.parent).fault? = none)
    (named : path.fileName? = some name) (fits : (path.parent.file name).Fits)
    (start : disk.HasDirectory (disk.origin path)) :
    let ready := (disk.ensureDirectories path.parent).disk
    ready.resolve (path.parent.file name) = .ok (disk.target path) := by
  intro ready
  have ensured := disk.ensureDirectories_ensures path
  have way : ∀ stop ∈ (ready.origin (path.parent.file name)).stops path.parent.steps,
      ready.HasDirectory stop := by
    rw [ensured.grown.origin_eq]
    exact ensured.made made
  rw [fits.resolve_of_directories (path.steps_file_concat name)
    (List.forall_mem_cons.mpr ⟨ensured.grown.begun start, way⟩), ensured.grown.target_file named]

/-- A log file that has been opened is there as it was, or empty if it was missing. -/
theorem Disk.AppendOutcome.keepsFile {ready : Disk} {file : DiskPath} {attempt : DiskAttempt}
    (outcome : ready.AppendOutcome file attempt) (succeeded : attempt.fault? = none)
    (grown : disk.Grown ready fun place node => place ∈ disk.stops path.parent ∧ node = .directory) :
    disk.KeepsFile attempt.disk (ready.target file) := by
  cases outcome with
  | unreached _ => simp at succeeded
  | missing _ free =>
    refine ⟨ByteArray.empty, by simp [Disk.node?_add free], .inr ⟨?_, rfl⟩⟩
    -- What was there before would not be missing.
    cases standing : disk.node? (ready.target file) with
    | none => rfl
    | some node => simp [grown.kept _ node standing] at free
  | standing _ there =>
    -- No files have been added on the way, so the file is an old one.
    obtain ⟨content, found⟩ := there
    obtain ⟨earlier, standing⟩ :=
      (grown.hasFile_iff (fun _ _ entry => entry.2) _).mp ⟨content, found⟩
    have same := (grown.kept _ _ standing).symm.trans found
    exact ⟨content, found, .inl (standing.trans same)⟩
  | taken _ _ => simp at succeeded

/-- A directory that cannot be made is reported, and a file is in its way. -/
theorem logFileChecks_of_unmade {fault : FileFault} (partsFit : ∀ part ∈ path.parts, part.Fits)
    (begun : disk.HasDirectory (disk.origin path))
    (failed : (disk.ensureDirectories path.parent).fault? = some fault) :
    LogFileChecks disk shown path (disk.ensureDirectories path.parent).disk
      (some (.directory fault)) := by
  obtain ⟨kind, met⟩ := Disk.fault_of_ensureDirectories partsFit begun failed
  have barred := Disk.barred_of_unmade partsFit begun failed
  exact {
    grown := disk.grown_directories path
    noDirectory := by simp [barred]
    met := by simp [barred, met]
    barredBy := by simpa using kind
    noName := by simp [barred]
    noFile := by simp [barred]
    takenBy := by simp
    passed := by simp [barred]
    made := fun free => absurd barred free
    opened := fun free => absurd barred free }

/-- A name that is missing or no text is reported where the directory has been made. -/
theorem logFileChecks_of_lacking (begun : disk.HasDirectory (disk.origin path))
    (made : (disk.ensureDirectories path.parent).fault? = none) (lacking : path.LacksTextName) :
    LogFileChecks disk shown path (disk.ensureDirectories path.parent).disk
      (some (.invalidFile shown)) := by
  have free := Disk.not_barred_of_made made
  have grown := disk.grown_directories path
  have way := (disk.ensureDirectories_ensures path).made made
  exact {
    grown
    noDirectory := by simp [free]
    met := by simp [free, grown.not_meetsFile begun way]
    barredBy := by simp
    noName := by simp [free, lacking]
    noFile := by simp [lacking]
    takenBy := by simp
    passed := by simp [lacking]
    made := fun _ => way
    opened := fun _ named => absurd lacking named }

/-- A file that cannot be opened is reported where the directory has been made, and a directory is in
its place. -/
theorem logFileChecks_of_taken (begun : disk.HasDirectory (disk.origin path))
    (made : (disk.ensureDirectories path.parent).fault? = none) (named : ¬path.LacksTextName)
    (taken : (disk.ensureDirectories path.parent).disk.HasDirectory (disk.target path)) :
    LogFileChecks disk shown path (disk.ensureDirectories path.parent).disk
      (some (.fileOpen shown .isDirectory)) := by
  have free := Disk.not_barred_of_made made
  have grown := disk.grown_directories path
  have way := (disk.ensureDirectories_ensures path).made made
  exact {
    grown
    noDirectory := by simp [free]
    met := by simp [free, grown.not_meetsFile begun way]
    barredBy := by simp
    noName := by simp [named]
    noFile := by simp [free, named, taken]
    takenBy := by simp
    passed := by simp [taken]
    made := fun _ => way
    opened := fun _ _ untaken => absurd taken untaken }

/-- The checks are passed where the file has been opened in the directory that has been made. -/
theorem logFileChecks_of_opened {left : Disk} (begun : disk.HasDirectory (disk.origin path))
    (made : (disk.ensureDirectories path.parent).fault? = none) (named : ¬path.LacksTextName)
    (grown : disk.Grown left (LogEntry disk path))
    (way : ∀ stop ∈ disk.stops path.parent, left.HasDirectory stop)
    (kept : disk.KeepsFile left (disk.target path)) : LogFileChecks disk shown path left none := by
  have free := Disk.not_barred_of_made made
  have untaken : ¬left.HasDirectory (disk.target path) := by
    obtain ⟨content, found, -⟩ := kept
    simp [Disk.HasDirectory, found]
  exact {
    grown
    noDirectory := by simp [free]
    met := by simp [free, grown.not_meetsFile begun way]
    barredBy := by simp
    noName := by simp [named]
    noFile := by simp [untaken]
    takenBy := by simp
    passed := by simp [free, named, untaken]
    made := fun _ => way
    opened := fun _ _ _ => kept }

/-- The checks of a log file answer by what is on the disk before them and what they leave there. -/
theorem LogFileOutcome.checks (outcome : LogFileOutcome disk shown path start)
    (partsFit : ∀ part ∈ path.parts, part.Fits)
    (fileFits : ∀ name, path.fileName? = some name → (path.parent.file name).Fits)
    (begun : disk.HasDirectory (disk.origin path)) :
    LogFileChecks disk shown path start.disk start.error? := by
  have grown := outcome.grown
  have ensured := disk.ensureDirectories_ensures path
  have appended (name : String) := @Disk.appendOutcome (disk.ensureDirectories path.parent).disk _ _ _
    (path.steps_file_concat name)
  cases outcome with
  | noDirectory failed => exact logFileChecks_of_unmade partsFit begun failed
  | noName made lacking => exact logFileChecks_of_lacking begun made lacking
  | @noFile name fault opened made named opening failed =>
    have reached := Disk.resolve_file made named (fileFits name named) begun
    -- The path of the file is resolved by now, so only a directory can be in its place.
    cases opening ▸ appended name with
    | unreached unresolved => simp [unresolved] at reached
    | missing _ _ => simp at failed
    | standing _ _ => simp at failed
    | taken _ directory =>
      obtain rfl : _ = fault := Option.some.inj failed
      rw [ensured.grown.target_file named] at directory
      exact logFileChecks_of_taken begun made (DiskPath.not_lacksTextName named) directory
  | @passed name opened made named opening succeeded =>
    -- What has been opened is a file, and opening it leaves the directories alone.
    have outcome := opening ▸ appended name
    have kept := outcome.keepsFile succeeded ensured.grown
    rw [ensured.grown.target_file named] at kept
    have way := fun stop member => outcome.grown.hasDirectory (ensured.made made stop member)
    exact logFileChecks_of_opened begun made (DiskPath.not_lacksTextName named) grown way kept

end

/-- An answer stays what it is when a log is started behind the checks that have been passed. -/
theorem LogFileChecks.started {disk left : Disk} {shown : String} {path : DiskPath}
    (checks : LogFileChecks disk shown path left none) :
    LogFileChecks disk shown path left (some .alreadyStarted) where
  grown := checks.grown
  noDirectory := by simpa using checks.noDirectory
  met := checks.met
  barredBy := by simp
  noName := by simpa using checks.noName
  noFile := by simpa using checks.noFile
  takenBy := by simp
  passed := by simpa using checks.passed
  made := checks.made
  opened := checks.opened

/-! Starting -/

section

variable {started : Bool} {settings : LogSettings} {raw : RawText} {disk : Disk}

/-- The disk is left as the checks of the file leave it. -/
theorem startLogging_disk (asked : settings.file = some raw) :
    (startLogging started settings disk).disk = (openLogFile disk raw).disk := by
  unfold startLogging
  simp only [asked]
  cases (openLogFile disk raw).error? <;> rfl

/-- The checks of the file answer first. -/
theorem startLogging_error? (asked : settings.file = some raw) :
    (startLogging started settings disk).error? =
      (openLogFile disk raw).error?.or (if started then some .alreadyStarted else none) := by
  unfold startLogging
  simp only [asked]
  cases (openLogFile disk raw).error? <;> rfl

/-- The checks of a log file start from a directory, and answer by what is in the way of the file. -/
theorem openLogFile_checks (fits : raw.FitsPath)
    (grounded : disk.HasDirectory disk.workingDirectory) :
    let start := openLogFile disk raw
    LogFileChecks disk raw.shown (.ofRaw raw) start.disk start.error? := by
  have begun : disk.HasDirectory (disk.origin (.ofRaw raw)) := by
    unfold Disk.origin
    split
    · rfl
    · exact grounded
  exact (logFileOutcome disk raw).checks fits.part (fun _ => fits.file) begun

/-- Setting up a log with a file is harmless to the disk, and what it answers is told by what is in
the way of the file. A path that is a text is shown as it is, and lacks a name only if it names no
file. -/
theorem startLogging_checks (asked : settings.file = some raw) (fits : raw.FitsPath)
    (grounded : disk.HasDirectory disk.workingDirectory) :
    let start := startLogging started settings disk
    LogFileChecks disk raw.shown (.ofRaw raw) start.disk start.error? ∧
      ∀ text : String, raw = text → raw.shown = text ∧
        ((DiskPath.ofRaw raw).LacksTextName ↔ (DiskPath.ofRaw raw).Nameless) := by
  intro start
  refine ⟨?_, ?_⟩
  · have checks := openLogFile_checks fits grounded
    rw [startLogging_disk asked, startLogging_error? asked]
    cases answer : (openLogFile disk raw).error? with
    | some error => simpa [answer] using checks
    | none =>
      simp only [answer] at checks
      cases started with
      | false => exact checks
      | true => exact checks.started
  · rintro text rfl
    exact ⟨RawText.shown_ofString text, DiskPath.lacksTextName_ofText⟩

/-- A log file may stand behind a step up from a directory that has to be made for it. -/
theorem startLogging_checks_behindNew :
    let disk : Disk := ⟨[(["a.log"], .file "old".toUTF8)], []⟩
    let start := startLogging false ⟨.pretty, .warn, some "new/../a.log"⟩ disk
    start.error? = none ∧ start.disk.HasDirectory ["new"] ∧
      start.disk.node? ["a.log"] = some (.file "old".toUTF8) := by
  intro disk start
  have fits : RawText.FitsPath "new/../a.log" := ⟨by decide, by decide, by decide⟩
  obtain ⟨checks, -⟩ :=
    @startLogging_checks false ⟨.pretty, .warn, some "new/../a.log"⟩ _ disk rfl fits rfl
  have answer : start.error? = none := by decide
  obtain ⟨free, -, -⟩ := checks.passed.mp (.inl answer)
  exact ⟨answer, checks.made free ["new"] (by decide), checks.grown.kept ["a.log"] _ rfl⟩

/-- A path can be refused for its name although it has one, if the name is not a text, and for its
directory although nothing is in the way, if it is too long as a whole. -/
theorem startLogging_refuses_named :
    let disk : Disk := ⟨[], []⟩
    let answer (raw : RawText) := (startLogging false ⟨.pretty, .warn, some raw⟩ disk).error?
    let undecoded : RawText := ⟨(RawText.ofString "new/").bytes ++ [0xFF, 0x2E, 0x6C, 0x6F, 0x67]⟩
    let long : RawText := ⟨[slashByte].intercalate (List.replicate 18 (List.replicate 250 0x61))⟩
    (undecoded.FitsPath ∧ ¬disk.Barred (DiskPath.ofRaw undecoded).parent ∧
      ¬(DiskPath.ofRaw undecoded).Nameless ∧
      answer undecoded = some (.invalidFile "new/\uFFFD.log")) ∧
    (0 ∉ long.bytes ∧ (∀ step ∈ (DiskPath.ofRaw long).steps, step.tooLong = false) ∧
      ¬disk.Barred (DiskPath.ofRaw long).parent ∧
      answer long = some (.directory .nameTooLong)) := by
  intro disk answer undecoded long
  -- There is no file at all on the disk.
  have unbarred (path : DiskPath) : ¬disk.Barred path := by
    rintro ⟨stop, -, content, file⟩
    simp only [Disk.node?, disk, List.lookup_nil] at file
    split at file <;> simp at file
  have fits : undecoded.FitsPath := ⟨by decide, by decide, by decide⟩
  refine ⟨⟨fits, unbarred _, ?_, by decide⟩, by decide +kernel, by decide +kernel, unbarred _, ?_⟩
  · rw [DiskPath.nameless_iff]
    decide
  · decide +kernel

/-- A path that has no text to name a file by is refused only where its directory has been made. -/
theorem LogFileOutcome.of_invalidFile {shown reported : String} {path : DiskPath} {start : LogStart}
    (outcome : LogFileOutcome disk shown path start)
    (refused : start.error? = some (.invalidFile reported)) :
    reported = shown ∧ path.LacksTextName ∧
      start.disk = (disk.ensureDirectories path.parent).disk ∧
      (disk.ensureDirectories path.parent).fault? = none := by
  cases outcome with
  | noDirectory _ => simp at refused
  | noName made lacking => exact ⟨by simpa using refused.symm, lacking, rfl, made⟩
  | noFile _ _ _ _ => simp at refused
  | passed _ _ _ _ => simp at refused

/-- Directories that are asked for along a path are all that a disk has then that it had not. -/
theorem Disk.Ensures.leavesDirectories {path : DiskPath} {attempt : DiskAttempt}
    (ensured : disk.Ensures path.parent attempt) (made : attempt.fault? = none)
    (lacking : path.LacksTextName) : LeavesDirectories disk path attempt.disk := by
  have way := ensured.made made
  have elsewhere : ∀ place, place ∉ disk.stops path.parent →
      attempt.disk.node? place = disk.node? place := by
    intro place aside
    cases standing : disk.node? place with
    | some node => exact ensured.grown.kept place node standing
    | none =>
      cases found : attempt.disk.node? place with
      | none => rfl
      | some node => exact absurd (ensured.grown.new place node standing found).1 aside
  refine ⟨lacking, way, elsewhere, ensured.grown.kept, fun same stop member => ?_, ?_⟩
  · exact (same stop).symm.trans (way stop member)
  · intro there place
    by_cases member : place ∈ disk.stops path.parent
    · exact (way place member).trans (there place member).symm
    · exact elsewhere place member

/-- Where a log path is refused because it has no text to name a file by, directories are left on the
disk. -/
theorem startLogging_invalidFile {reported : String} (asked : settings.file = some raw)
    (refused : (startLogging started settings disk).error? = some (.invalidFile reported)) :
    reported = raw.shown ∧
      LeavesDirectories disk (.ofRaw raw) (startLogging started settings disk).disk := by
  rw [startLogging_error? asked, Option.or_eq_some_iff] at refused
  -- A log that has been started is not what is reported.
  have answer : (openLogFile disk raw).error? = some (.invalidFile reported) :=
    refused.resolve_right (by cases started <;> simp)
  obtain ⟨rfl, lacking, left, made⟩ := (logFileOutcome disk raw).of_invalidFile answer
  rw [startLogging_disk asked, left]
  exact ⟨rfl, (disk.ensureDirectories_ensures _).leavesDirectories made lacking⟩

/-- The directory is left that a log path steps into and out of again. -/
theorem startLogging_invalidFile_new :
    let disk : Disk := ⟨[(["old"], .directory)], []⟩
    let start := startLogging false ⟨.json, .info, some "old/new/.."⟩ disk
    start.error? = some (.invalidFile "old/new/..") ∧ start.disk.HasDirectory ["old", "new"] := by
  intro disk start
  have answer : start.error? = some (.invalidFile "old/new/..") := by decide
  obtain ⟨-, left⟩ :=
    @startLogging_invalidFile false ⟨.json, .info, some "old/new/.."⟩ _ disk _ rfl answer
  exact ⟨answer, left.made ["old", "new"] (by decide)⟩

/-- A log path can be refused because it names no file, and leave a directory that was not there. -/
theorem startLogging_refused_leavesNew :
    let disk : Disk := ⟨[], []⟩
    let start := startLogging false ⟨.pretty, .warn, some "new/.."⟩ disk
    start.error? = some (.invalidFile "new/..") ∧ disk.node? ["new"] = none ∧
      start.disk.node? ["new"] = some .directory :=
  ⟨by decide, rfl, rfl⟩

end

end BreakpointGlyph
