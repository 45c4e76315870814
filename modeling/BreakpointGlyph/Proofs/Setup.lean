import BreakpointGlyph.Proofs.Logging.File
import BreakpointGlyph.Setup

/-! The result of a run is the same with any log, since the disk that a log is set up on has grown,
and what is read there before anything is logged has not changed. -/

namespace BreakpointGlyph

/-! Reading -/

section

variable {before after : Disk} {added : DiskPlace → DiskNode → Prop} {path : DiskPath}

/-- A path is resolved as before when a disk has grown. -/
theorem Disk.Grown.resolve (grown : before.Grown after added) {place : DiskPlace}
    (resolved : before.resolve path = .ok place) : after.resolve path = .ok place := by
  unfold Disk.resolve at resolved ⊢
  split at resolved
  · simp at resolved
  · rename_i nulFree
    split at resolved
    · simp at resolved
    · rename_i short
      rw [if_neg nulFree, if_neg short, grown.workingDirectory]
      exact grown.follow resolved

/-- A file that was there is read as before when a disk has grown. -/
theorem Disk.Grown.readText (grown : before.Grown after added) (named : before.NamesFile path) :
    after.readText path = before.readText path := by
  -- The path leads to the same place, and the same content is there.
  obtain ⟨place, resolved, content, file⟩ := named
  simp only [Disk.readText, resolved, grown.resolve resolved, file, grown.kept place _ file]

/-- A position is found as before when a disk has grown on which its file was there. -/
theorem Disk.Grown.position {request : DescribeRequest} (grown : before.Grown after added)
    (named : ∀ text, request.source = some text → before.NamesFile (.ofText text)) :
    request.position after = request.position before := by
  unfold DescribeRequest.position
  split
  · rename_i text offset source counted
    rw [grown.readText (named text source)]
  · rfl

/-- A command runs as before when a disk has grown on which its file was there. -/
theorem Disk.Grown.run {command : Command} (grown : before.Grown after added)
    (named : ∀ request text, command = .describe request → request.source = some text →
      before.NamesFile (.ofText text)) : command.run after = command.run before := by
  cases command with
  | mappings => rfl
  | describe request =>
    -- The disk is looked at for the position only.
    have same := grown.position fun text => named request text rfl
    simp only [Command.run, Command.steps, DescribeRequest.steps, same]

end

/-- A command looks into a file before it has logged anything. -/
theorem Command.runAmid_eq (command : Command) (diskAfter : List GlyphEvent → Disk) :
    command.runAmid diskAfter = command.run (diskAfter []) := by
  cases command <;> rfl

/-! Setting up -/

/-- The disk that a log is set up on has grown. -/
theorem startLogging_grown (started : Bool) (settings : LogSettings) (disk : Disk) :
    disk.Grown (startLogging started settings disk).disk fun _ _ => True := by
  cases asked : settings.file with
  | none =>
    have left : (startLogging started settings disk).disk = disk := by
      unfold startLogging
      simp only [asked]
    rw [left]
    exact .refl disk _
  | some raw =>
    rw [startLogging_disk asked]
    exact (logFileOutcome disk raw).grown.mono fun _ _ _ => trivial

/-- A run is told by what becomes of the log. -/
theorem runProgram_eq (environment : LogEnvironment) (arguments : List String) (disk : Disk) :
    runProgram environment arguments disk =
      match environment.setUp disk with
      | .stopped => .stopped disk
      | .failed error left =>
        ⟨1, "", some ("Failed to initialize logging: " ++ error.message), [], left⟩
      | .started filter left => runArguments filter arguments left := by
  unfold runProgram LogEnvironment.setUp
  simp only
  cases LogFilter.ofText? environment.filter (LogSettings.resolve environment .warn).defaultLevel with
  | none => rfl
  | some filter =>
    simp only
    cases (startLogging false (LogSettings.resolve environment .warn) disk).error? <;> rfl

/-- A log that has been started has left the disk grown. -/
theorem LogEnvironment.grown_of_setUp {environment : LogEnvironment} {disk left : Disk}
    {filter : LogFilter} (started : environment.setUp disk = .started filter left) :
    disk.Grown left fun _ _ => True := by
  unfold LogEnvironment.setUp at started
  simp only at started
  split at started
  · simp at started
  · split at started
    · simp at started
    · obtain ⟨-, rfl⟩ := LogSetup.started.inj started
      exact startLogging_grown false _ disk

/-- What arguments result in depends neither on the filter of the log nor on what has been added to
the disk. -/
theorem runArguments_result {arguments : List String} {disk left : Disk}
    {added : DiskPlace → DiskNode → Prop} (held : HoldsSource disk arguments)
    (grown : disk.Grown left added) (filter : LogFilter) :
    (runArguments filter arguments left).result = (runArguments [] arguments disk).result := by
  unfold runArguments
  cases parsed : Command.ofArguments arguments with
  | error usage =>
    -- A usage error is told without a look at the disk.
    cases asked : usage.isRequest <;> simp [asked, ProgramRun.result]
  | ok command =>
    have same : command.run left = command.run disk :=
      grown.run fun request text described => held request text (described ▸ parsed)
    simp only [same]
    cases (command.run disk).error? <;> rfl

/-- The log is beside every run. -/
theorem runProgram_logBeside (arguments : List String) (disk : Disk) :
    LogBeside arguments disk where
  same := by
    rintro held first second ⟨firstFilter, firstLeft, first⟩ ⟨secondFilter, secondLeft, second⟩
    simp only [runProgram_eq, first, second]
    -- Both results are the one on the disk without a log.
    rw [runArguments_result held (LogEnvironment.grown_of_setUp first),
      runArguments_result held (LogEnvironment.grown_of_setUp second)]
  amid command _ diskAfter := command.runAmid_eq diskAfter
  failed environment error left failed := by simp only [runProgram_eq, failed]
  stopped environment stopped := by
    simp only [runProgram_eq, stopped]
    rfl

/-- A position may be looked for in the very file that the log is written to. -/
theorem runProgram_logBeside_inSource :
    let arguments := ["describe", "--base", "1", "--source", "a.cs", "--offset", "2"]
    let disk : Disk := ⟨[(["a.cs"], .file "x\ny".toUTF8)], []⟩
    (runProgram { file := some "a.cs" } arguments disk).result =
      (runProgram {} arguments disk).result := by
  intro arguments disk
  have held : HoldsSource disk arguments := by
    intro request path parsed source
    have asked : Command.ofArguments arguments = .ok (.describe
      ({ base := some 1, source := some "a.cs", offset := some 2 } : GivenOptions).request) := by
      rfl
    rw [asked] at parsed
    obtain rfl := Command.describe.inj (Except.ok.inj parsed)
    obtain rfl : "a.cs" = path := Option.some.inj source
    exact ⟨["a.cs"], rfl, _, rfl⟩
  have first : LogEnvironment.Starts { file := some "a.cs" } disk := ⟨.atLevel .warn, disk, rfl⟩
  have second : LogEnvironment.Starts {} disk := ⟨.atLevel .warn, disk, rfl⟩
  exact (runProgram_logBeside arguments disk).same held _ _ first second

end BreakpointGlyph
