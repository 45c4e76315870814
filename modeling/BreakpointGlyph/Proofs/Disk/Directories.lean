import BreakpointGlyph.Proofs.Disk.Path
import BreakpointGlyph.Proofs.Disk.Route

/-! Making the directories along a path: there are directories all along it in the end, or a file
stands in its way. -/

namespace BreakpointGlyph

/-- A path that is resolved is followed from where it starts. -/
theorem Disk.follow_of_resolve {disk : Disk} {path : DiskPath} {place : DiskPlace}
    (resolved : disk.resolve path = .ok place) :
    disk.follow (disk.origin path) path.steps = .ok place := by
  unfold resolve at resolved
  split at resolved
  · simp at resolved
  · split at resolved
    · simp at resolved
    · exact resolved

/-- A path within the limits is followed from where it starts. -/
theorem DiskPath.Fits.resolve_eq {path : DiskPath} (fits : path.Fits) (disk : Disk) :
    disk.resolve path = disk.follow (disk.origin path) path.steps := by
  simp only [Disk.resolve, fits.nulFree, Nat.not_lt.mpr fits.short, if_false, Bool.false_eq_true]
  rfl

section

variable {disk : Disk} {path : DiskPath} {steps : List PathStep} {last : PathStep}
  {attempt : DiskAttempt}

/-- The last of the places along a path is the one that the path is about. -/
theorem Disk.stops_of_concat (ends : path.steps = steps ++ [last]) :
    disk.stops path = (disk.origin path).stops steps ++ [disk.target path] := by
  simp only [stops, target, ends, DiskPlace.stops_concat]

/-- A path that is resolved leads to its place, through directories. -/
theorem Disk.directories_of_resolve (ends : path.steps = steps ++ [last]) {place : DiskPlace}
    (resolved : disk.resolve path = .ok place) :
    place = disk.target path ∧
      ∀ stop ∈ disk.origin path :: (disk.origin path).stops steps, disk.HasDirectory stop := by
  have followed := follow_of_resolve resolved
  rw [ends] at followed
  simpa only [target, ends] using directories_of_follow followed

/-- One of the outcomes is the one that there is. -/
theorem Disk.directoryOutcome (ends : path.steps = steps ++ [last]) :
    disk.DirectoryOutcome path (disk.ensureDirectory path) := by
  unfold ensureDirectory makeDirectory isDirectory
  cases resolved : disk.resolve path with
  | error fault => exact .unreached resolved
  | ok place =>
    obtain ⟨rfl, -⟩ := directories_of_resolve ends resolved
    rcases found : disk.node? (disk.target path) with _ | _ | content
    · simpa [found] using .missing resolved found
    · simpa [found, DiskNode.isDirectory] using .standing resolved found
    · simpa [found, DiskNode.isDirectory] using .taken resolved ⟨content, found⟩

/-- A directory that is asked for is there in the end, unless something has failed. -/
theorem Disk.DirectoryOutcome.ensures (outcome : disk.DirectoryOutcome path attempt)
    (ends : path.steps = steps ++ [last]) : disk.Ensures path attempt := by
  have extended := @stops_of_concat disk _ _ _ ends
  cases outcome with
  | unreached _ => exact ⟨.refl disk _, by simp⟩
  | missing reached free =>
    have grown : disk.Grown (disk.add (disk.target path) .directory) fun place node =>
        place ∈ disk.stops path ∧ node = .directory :=
      grown_add free ⟨by simp [extended], rfl⟩
    refine ⟨grown, fun _ => ?_⟩
    -- The directories on the way are still there, and the new one is behind them.
    have way := (List.forall_mem_cons.mp (directories_of_resolve ends reached).2).2
    rw [extended, List.forall_mem_append]
    refine ⟨fun stop member => grown.hasDirectory (way stop member), ?_⟩
    simp [HasDirectory, node?_add free]
  | standing reached directory =>
    -- Nothing is added, and the path would not be resolved without directories on the way.
    have way := (List.forall_mem_cons.mp (directories_of_resolve ends reached).2).2
    refine ⟨.refl disk _, fun _ => ?_⟩
    rw [extended, List.forall_mem_append]
    exact ⟨way, by simpa using directory⟩
  | taken _ _ => exact ⟨.refl disk _, by simp⟩

/-- A directory is not made where nothing is above it, or where its path meets a file. -/
theorem Disk.DirectoryOutcome.fault (outcome : disk.DirectoryOutcome path attempt)
    (fits : path.Fits) {fault : FileFault} (failed : attempt.fault? = some fault) :
    fault = .notFound ∨ (fault = .notDirectory ∨ fault = .exists) ∧ disk.MeetsFile path := by
  cases outcome with
  | unreached unresolved =>
    obtain rfl := Option.some.inj failed
    rw [fits.resolve_eq] at unresolved
    exact (fault_of_follow fits.shortNames unresolved).imp_right fun met => ⟨.inl met.1, met.2⟩
  | missing _ _ => simp at failed
  | standing _ _ => simp at failed
  | taken reached file =>
    -- All of the path is the prefix that leads to the file.
    have met : disk.MeetsFile path :=
      ⟨path.steps, _, List.prefix_rfl, follow_of_resolve reached, file⟩
    exact .inr ⟨.inr (Option.some.inj failed).symm, met⟩

/-- A path is resolved where there are directories on its way. -/
theorem DiskPath.Fits.resolve_of_directories (fits : path.Fits) (ends : path.steps = steps ++ [last])
    (way : ∀ stop ∈ disk.origin path :: (disk.origin path).stops steps, disk.HasDirectory stop) :
    disk.resolve path = .ok (disk.target path) := by
  rw [fits.resolve_eq, Disk.target, ends]
  exact Disk.follow_of_directories way (ends ▸ fits.shortNames)

/-- Where there are directories on the way, a directory that is asked for is not missing a place. -/
theorem Disk.DirectoryOutcome.found (outcome : disk.DirectoryOutcome path attempt)
    (reached : disk.resolve path = .ok (disk.target path)) : attempt.fault? ≠ some .notFound := by
  cases outcome with
  | unreached unresolved => simp [unresolved] at reached
  | missing _ _ => simp
  | standing _ _ => simp
  | taken _ _ => simp

/-- One of the outcomes of opening a file is the one that there is. -/
theorem Disk.appendOutcome (ends : path.steps = steps ++ [last]) :
    disk.AppendOutcome path (disk.openToAppend path) := by
  unfold openToAppend
  cases resolved : disk.resolve path with
  | error fault => exact .unreached resolved
  | ok place =>
    obtain ⟨rfl, -⟩ := directories_of_resolve ends resolved
    rcases found : disk.node? (disk.target path) with _ | _ | content
    · simpa [found] using .missing resolved found
    · simpa [found] using .taken resolved found
    · simpa [found] using .standing resolved ⟨content, found⟩

/-- Opening a file adds nothing but that file, empty. -/
theorem Disk.AppendOutcome.grown (outcome : disk.AppendOutcome path attempt) :
    disk.Grown attempt.disk fun place node =>
      place = disk.target path ∧ node = .file ByteArray.empty := by
  cases outcome with
  | unreached _ => exact .refl disk _
  | missing _ free => exact grown_add free ⟨rfl, rfl⟩
  | standing _ _ => exact .refl disk _
  | taken _ _ => exact .refl disk _

end

/-! All the way -/

/-- The steps of a directory's path that is given by its parts in reverse. -/
theorem DiskPath.steps_toDirectory_reverse (absolute : Bool) (last : PathPart)
    (above : List PathPart) :
    (toDirectory absolute (last :: above).reverse).steps =
      (toDirectory absolute above.reverse).steps ++ [last.step] := by
  simp [steps, toDirectory]

/-- The places along the path of a directory are along the paths below it as well. -/
theorem Disk.stops_toDirectory_reverse (disk : Disk) (absolute : Bool) (last : PathPart)
    (above : List PathPart) :
    disk.stops (.toDirectory absolute (last :: above).reverse) =
      disk.stops (.toDirectory absolute above.reverse) ++
        [disk.target (.toDirectory absolute (last :: above).reverse)] :=
  stops_of_concat (DiskPath.steps_toDirectory_reverse absolute last above)

/-- Directories are made all along a path, unless something fails. -/
theorem Disk.ensureParts_ensures (disk : Disk) (absolute : Bool) (parts : List PathPart) :
    disk.Ensures (.toDirectory absolute parts.reverse) (disk.ensureParts absolute parts) := by
  -- The parts are taken from the last one up, so the hypothesis is about the directories above.
  induction parts with
  | nil => exact ⟨.refl disk _, by simp [stops, DiskPath.steps, DiskPath.toDirectory, DiskPlace.stops]⟩
  | cons last above ih =>
    have ends := DiskPath.steps_toDirectory_reverse absolute last above
    have extended := disk.stops_toDirectory_reverse absolute last above
    have higher := ih.grown.mono fun place node entry =>
      (⟨extended ▸ List.mem_append_left _ entry.1, entry.2⟩ :
        place ∈ disk.stops (.toDirectory absolute (last :: above).reverse) ∧ node = .directory)
    unfold ensureParts
    simp only
    split
    · split
      · -- What is above is there by now, and the directory is asked for again.
        have second := (@directoryOutcome (disk.ensureParts absolute above).disk _ _ _ ends).ensures ends
        have same := ih.grown.stops_eq (.toDirectory absolute (last :: above).reverse)
        exact ⟨higher.trans (same ▸ second.grown), same ▸ second.made⟩
      · -- What could be made above is left there.
        rename_i failed
        exact ⟨higher, fun made => absurd made failed⟩
    · -- Nothing above is missing, so the first attempt is the only one.
      exact (directoryOutcome ends).ensures ends

/-- What keeps directories from being made along a path is a file that the path meets. -/
theorem Disk.fault_of_ensureParts {disk : Disk} {absolute : Bool} {parts : List PathPart}
    {fault : FileFault} (fits : ∀ part ∈ parts, part.Fits)
    (start : disk.HasDirectory (disk.origin (.toDirectory absolute parts.reverse)))
    (failed : (disk.ensureParts absolute parts).fault? = some fault) :
    (fault = .notDirectory ∨ fault = .exists) ∧
      (disk.ensureParts absolute parts).disk.MeetsFile (.toDirectory absolute parts.reverse) := by
  induction parts with
  | nil => simp [ensureParts] at failed
  | cons last above ih =>
    have ends := DiskPath.steps_toDirectory_reverse absolute last above
    have pathFits : (DiskPath.toDirectory absolute (last :: above).reverse).Fits :=
      DiskPath.fits_toDirectory absolute fun part member =>
        fits part (List.mem_reverse.mp member)
    have higherFits : ∀ part ∈ above, part.Fits := fun part member => fits part (by simp [member])
    unfold ensureParts at failed ⊢
    simp only at failed ⊢
    split at failed
    · have ensured := disk.ensureParts_ensures absolute above
      split at failed
      · rename_i missing made
        rw [if_pos missing, if_pos made]
        -- What is above is there by now, so the directory is not found missing again.
        have way := List.forall_mem_cons.mpr ⟨ensured.grown.begun start, ensured.grown.stops_eq
          (.toDirectory absolute above.reverse) ▸ ensured.made made⟩
        have outcome := @directoryOutcome (disk.ensureParts absolute above).disk _ _ _ ends
        have found := outcome.found (pathFits.resolve_of_directories ends way)
        obtain rfl | ⟨kind, met⟩ := outcome.fault pathFits failed
        · exact absurd failed found
        · exact ⟨kind, (outcome.ensures ends).grown.meetsFile met⟩
      · -- A prefix of the path above is a prefix of this path too.
        rename_i missing unmade
        rw [if_pos missing, if_neg unmade]
        obtain ⟨kind, front, stop, begins, followed, file⟩ := ih higherFits start failed
        exact ⟨kind, front, stop, ends ▸ begins.trans (List.prefix_append _ _), followed, file⟩
    · -- Any other fault than a missing place is reported at once.
      rename_i reached
      rw [if_neg reached]
      have outcome := @directoryOutcome disk _ _ _ ends
      obtain rfl | ⟨kind, met⟩ := outcome.fault pathFits failed
      · exact absurd failed reached
      · exact ⟨kind, (outcome.ensures ends).grown.meetsFile met⟩

/-- The directory at a path and those above it are made, unless something fails. -/
theorem Disk.ensureDirectories_ensures (disk : Disk) (path : DiskPath) :
    disk.Ensures path.parent (disk.ensureDirectories path.parent) := by
  have ensured := disk.ensureParts_ensures path.absolute path.parts.dropLast.reverse
  rwa [List.reverse_reverse] at ensured

/-- What keeps the directory at a path from being made is a file that its path meets. -/
theorem Disk.fault_of_ensureDirectories {disk : Disk} {path : DiskPath} {fault : FileFault}
    (fits : ∀ part ∈ path.parts, part.Fits) (start : disk.HasDirectory (disk.origin path))
    (failed : (disk.ensureDirectories path.parent).fault? = some fault) :
    (fault = .notDirectory ∨ fault = .exists) ∧
      (disk.ensureDirectories path.parent).disk.MeetsFile path.parent := by
  have partsFit : ∀ part ∈ path.parts.dropLast.reverse, part.Fits := fun part member =>
    fits part (List.dropLast_subset _ (List.mem_reverse.mp member))
  have met := fault_of_ensureParts partsFit start failed
  rwa [List.reverse_reverse] at met

end BreakpointGlyph
