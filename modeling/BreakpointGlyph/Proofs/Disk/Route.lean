import BreakpointGlyph.Disk.Route

/-! What a disk that has grown has kept, and where steps lead on it. -/

namespace BreakpointGlyph

/-! Growing -/

/-- What stands where, once an entry has been added at a free place. -/
theorem Disk.node?_add {disk : Disk} {place : DiskPlace} (free : disk.node? place = none)
    (node : DiskNode) (other : DiskPlace) :
    (disk.add place node).node? other = if other = place then some node else disk.node? other := by
  -- The root is never free.
  have inside : place ≠ [] := by
    rintro rfl
    simp [node?] at free
  simp only [node?, if_neg inside] at free
  simp only [node?, add, List.lookup_append]
  by_cases same : other = place
  · subst same
    simp [inside, free]
  · by_cases root : other = []
    · simp [root, Ne.symm inside]
    · cases disk.entries.lookup other <;> simp [root, same]

/-- An entry that is added at a free place is all that has grown. -/
theorem Disk.grown_add {disk : Disk} {place : DiskPlace} (free : disk.node? place = none)
    {node : DiskNode} {added : DiskPlace → DiskNode → Prop} (allowed : added place node) :
    disk.Grown (disk.add place node) added where
  workingDirectory := rfl
  kept := by
    intro other standing found
    rw [node?_add free, if_neg fun same => ?_, found]
    simp [same, free] at found
  new := by
    intro other standing missing found
    rw [node?_add free] at found
    split at found
    · simp_all
    · simp [missing] at found

/-- A disk has grown by nothing since it was the same. -/
theorem Disk.Grown.refl (disk : Disk) (added : DiskPlace → DiskNode → Prop) :
    disk.Grown disk added where
  workingDirectory := rfl
  kept _ _ found := found
  new _ _ missing found := by simp [missing] at found

/-- A disk that has grown twice has grown. -/
theorem Disk.Grown.trans {before between after : Disk} {added : DiskPlace → DiskNode → Prop}
    (first : before.Grown between added) (second : between.Grown after added) :
    before.Grown after added where
  workingDirectory := second.workingDirectory.trans first.workingDirectory
  kept place node found := second.kept place node (first.kept place node found)
  new := by
    intro place node missing found
    -- The entry was added at the first time or at the second one.
    cases halfway : between.node? place with
    | none => exact second.new place node halfway found
    | some earlier =>
      have same : earlier = node :=
        Option.some.inj ((second.kept place earlier halfway).symm.trans found)
      exact first.new place node missing (same ▸ halfway)

/-- More may be said about what has been added. -/
theorem Disk.Grown.mono {before after : Disk} {added wider : DiskPlace → DiskNode → Prop}
    (grown : before.Grown after added) (allowed : ∀ place node, added place node → wider place node) :
    before.Grown after wider where
  workingDirectory := grown.workingDirectory
  kept := grown.kept
  new place node missing found := allowed place node (grown.new place node missing found)

/-- Where directories only have been added, the files are the same. -/
theorem Disk.Grown.hasFile_iff {before after : Disk} {added : DiskPlace → DiskNode → Prop}
    (grown : before.Grown after added)
    (directories : ∀ place node, added place node → node = .directory) (place : DiskPlace) :
    after.HasFile place ↔ before.HasFile place := by
  constructor
  · rintro ⟨content, found⟩
    cases standing : before.node? place with
    | none =>
      -- What is new is a directory.
      have new := directories place _ (grown.new place _ standing found)
      cases new
    | some node =>
      have same := (grown.kept place node standing).symm.trans found
      exact ⟨content, standing.trans same⟩
  · rintro ⟨content, found⟩
    exact ⟨content, grown.kept place _ found⟩

/-- A directory that was there is still there. -/
theorem Disk.Grown.hasDirectory {before after : Disk} {added : DiskPlace → DiskNode → Prop}
    (grown : before.Grown after added) {place : DiskPlace} (found : before.HasDirectory place) :
    after.HasDirectory place :=
  grown.kept place .directory found

/-- A path starts where it did. -/
theorem Disk.Grown.origin_eq {before after : Disk} {added : DiskPlace → DiskNode → Prop}
    (grown : before.Grown after added) (path : DiskPath) :
    after.origin path = before.origin path := by
  simp only [origin, grown.workingDirectory]

/-- A path that started from a directory still does. -/
theorem Disk.Grown.begun {before after : Disk} {added : DiskPlace → DiskNode → Prop}
    (grown : before.Grown after added) {path : DiskPath}
    (begun : before.HasDirectory (before.origin path)) : after.HasDirectory (after.origin path) := by
  rw [grown.origin_eq]
  exact grown.hasDirectory begun

/-- A path goes the same way as it did. -/
theorem Disk.Grown.stops_eq {before after : Disk} {added : DiskPlace → DiskNode → Prop}
    (grown : before.Grown after added) (path : DiskPath) : after.stops path = before.stops path := by
  simp only [stops, grown.origin_eq path]

/-- Where directories only have been added, a path is barred if it was. -/
theorem Disk.Grown.barred_iff {before after : Disk} {added : DiskPlace → DiskNode → Prop}
    (grown : before.Grown after added)
    (directories : ∀ place node, added place node → node = .directory) (path : DiskPath) :
    after.Barred path ↔ before.Barred path := by
  simp only [Barred, grown.stops_eq, grown.hasFile_iff directories]

/-- A path with directories all along it is not barred. -/
theorem Disk.not_barred {disk : Disk} {path : DiskPath}
    (way : ∀ stop ∈ disk.stops path, disk.HasDirectory stop) : ¬disk.Barred path := by
  rintro ⟨stop, member, content, file⟩
  have directory : disk.node? stop = some .directory := way stop member
  simp [directory] at file

/-! Walking -/

/-- The places along the steps in front, then those along the steps behind. -/
theorem DiskPlace.stops_append (place : DiskPlace) (front back : List PathStep) :
    place.stops (front ++ back) = place.stops front ++ (place.walk front).stops back := by
  induction front generalizing place with
  | nil => rfl
  | cons step rest ih => simp [stops, walk, ih]

/-- The last step leads to the last of the places. -/
theorem DiskPlace.stops_concat (place : DiskPlace) (steps : List PathStep) (last : PathStep) :
    place.stops (steps ++ [last]) = place.stops steps ++ [place.walk (steps ++ [last])] := by
  simp [stops_append, stops, walk]

/-- A step is taken from a directory only, and into names that are not too long. -/
theorem Disk.follow_cons (disk : Disk) (place : DiskPlace) (step : PathStep)
    (rest : List PathStep) :
    disk.follow place (step :: rest) =
      match disk.node? place with
      | none => .error .notFound
      | some (.file _) => .error .notDirectory
      | some .directory =>
        if step.tooLong then .error .nameTooLong else disk.follow (place.after step) rest := by
  rcases found : disk.node? place with _ | _ | content <;>
    cases step <;> simp [follow, PathStep.tooLong, DiskPlace.after, found]

/-- The first of some steps leads on from a directory, unless the name it enters is too long. -/
theorem Disk.follow_cons_eq_ok_iff {disk : Disk} {place target : DiskPlace} {step : PathStep}
    {rest : List PathStep} :
    disk.follow place (step :: rest) = .ok target ↔
      disk.HasDirectory place ∧ step.tooLong = false ∧
        disk.follow (place.after step) rest = .ok target := by
  rw [follow_cons, HasDirectory]
  rcases disk.node? place with _ | _ | content <;> cases step.tooLong <;> simp

/-- Steps are followed to the place that they lead to if there are directories on the way. -/
theorem Disk.follow_of_directories {disk : Disk} {place : DiskPlace} {steps : List PathStep}
    {last : PathStep} (way : ∀ stop ∈ place :: place.stops steps, disk.HasDirectory stop)
    (shortNames : ∀ step ∈ steps ++ [last], step.tooLong = false) :
    disk.follow place (steps ++ [last]) = .ok (place.walk (steps ++ [last])) := by
  obtain ⟨start, onward⟩ := List.forall_mem_cons.mp way
  induction steps generalizing place with
  | nil => exact follow_cons_eq_ok_iff.mpr ⟨start, shortNames last (by simp), rfl⟩
  | cons step rest ih =>
    -- The first step leads to a directory, from which the others are taken.
    refine follow_cons_eq_ok_iff.mpr ⟨start, shortNames step (by simp), ?_⟩
    have next := List.forall_mem_cons.mp onward
    exact ih onward (fun other member => shortNames other (by simp [member])) next.1 next.2

/-- Steps that are followed lead to their place, through directories. -/
theorem Disk.directories_of_follow {disk : Disk} {place target : DiskPlace} {steps : List PathStep}
    {last : PathStep} (followed : disk.follow place (steps ++ [last]) = .ok target) :
    target = place.walk (steps ++ [last]) ∧
      ∀ stop ∈ place :: place.stops steps, disk.HasDirectory stop := by
  induction steps generalizing place with
  | nil =>
    -- The only step is taken from the place where the path starts.
    obtain ⟨start, -, ended⟩ := follow_cons_eq_ok_iff.mp followed
    exact ⟨(Except.ok.inj ended).symm, List.forall_mem_cons.mpr ⟨start, by simp [DiskPlace.stops]⟩⟩
  | cons step rest ih =>
    obtain ⟨start, -, onward⟩ := follow_cons_eq_ok_iff.mp followed
    obtain ⟨reached, way⟩ := ih onward
    exact ⟨reached, List.forall_mem_cons.mpr ⟨start, way⟩⟩

/-- Steps that are not followed meet a place where nothing is, or one where a file is. -/
theorem Disk.fault_of_follow {disk : Disk} {place : DiskPlace} {steps : List PathStep}
    {fault : FileFault} (shortNames : ∀ step ∈ steps, step.tooLong = false)
    (failed : disk.follow place steps = .error fault) :
    fault = .notFound ∨ fault = .notDirectory ∧
      ∃ front stop, front <+: steps ∧ disk.follow place front = .ok stop ∧ disk.HasFile stop := by
  induction steps generalizing place with
  | nil => simp [follow] at failed
  | cons step rest ih =>
    rw [follow_cons] at failed
    split at failed
    · -- Nothing is where the path is before this step.
      exact .inl (by simpa using failed.symm)
    · -- The file is where the path is before this step.
      rename_i content found
      exact .inr ⟨by simpa using failed.symm, [], place, by simp, rfl, content, found⟩
    · rename_i found
      have shortName := shortNames step (by simp)
      rw [shortName] at failed
      -- The prefix that the other steps have begins with this step.
      refine (ih (fun other member => shortNames other (by simp [member])) failed).imp_right ?_
      rintro ⟨kind, front, stop, start, followed, file⟩
      refine ⟨kind, step :: front, stop, List.cons_prefix_cons.mpr ⟨rfl, start⟩, ?_, file⟩
      exact follow_cons_eq_ok_iff.mpr ⟨found, shortName, followed⟩

/-- A prefix that takes a step leads to one of the places along the way. -/
theorem DiskPlace.walk_mem_stops {place : DiskPlace} {front steps : List PathStep}
    (start : front <+: steps) (moved : front ≠ []) : place.walk front ∈ place.stops steps := by
  obtain ⟨back, rfl⟩ := start
  obtain ⟨others, last, rfl⟩ := (List.eq_nil_or_concat front).resolve_left moved
  rw [List.concat_eq_append, stops_append, stops_concat]
  simp

/-- What is reached on a disk is reached when the disk has grown. -/
theorem Disk.Grown.follow {before after : Disk} {added : DiskPlace → DiskNode → Prop}
    (grown : before.Grown after added) {place target : DiskPlace} {steps : List PathStep}
    (followed : before.follow place steps = .ok target) : after.follow place steps = .ok target := by
  induction steps generalizing place with
  | nil => exact followed
  | cons step rest ih =>
    -- The directory from which the first step is taken is still there.
    obtain ⟨start, shortName, onward⟩ := follow_cons_eq_ok_iff.mp followed
    exact follow_cons_eq_ok_iff.mpr ⟨grown.hasDirectory start, shortName, ih onward⟩

/-- A file that a prefix of a path leads to is met when the disk has grown. -/
theorem Disk.Grown.meetsFile {before after : Disk} {added : DiskPlace → DiskNode → Prop}
    (grown : before.Grown after added) {path : DiskPath} (met : before.MeetsFile path) :
    after.MeetsFile path := by
  obtain ⟨front, stop, start, followed, content, file⟩ := met
  refine ⟨front, stop, start, ?_, content, grown.kept stop _ file⟩
  rw [grown.origin_eq]
  exact grown.follow followed

/-- A file that is met by a path from a directory stands in the way of that path. -/
theorem Disk.MeetsFile.barred {disk : Disk} {path : DiskPath} (met : disk.MeetsFile path)
    (begun : disk.HasDirectory (disk.origin path)) : disk.Barred path := by
  obtain ⟨front, stop, start, followed, content, file⟩ := met
  rcases List.eq_nil_or_concat front with rfl | ⟨others, last, rfl⟩
  · -- No step leads to where the path starts, and that is a directory.
    obtain rfl := Except.ok.inj followed
    simp [show disk.node? _ = _ from begun] at file
  · rw [List.concat_eq_append] at start followed
    refine ⟨stop, ?_, content, file⟩
    rw [(directories_of_follow followed).1]
    exact DiskPlace.walk_mem_stops start (by simp)

end BreakpointGlyph
