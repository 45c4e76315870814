import BreakpointGlyph.Disk.Route
import BreakpointGlyph.Proofs.Disk.RawText
import BreakpointGlyph.Proofs.Text.Joined

/-! The parts of a path stand in its bytes one behind the other, so they are within the limits of a
disk if the path is, and their names are texts if it is one. -/

namespace BreakpointGlyph

/-- A piece between slashes that names an entry is its name. -/
theorem eq_of_pathStep? {piece : List UInt8} {name : RawText}
    (entered : pathStep? piece = some (.enter name)) : name = ⟨piece⟩ := by
  unfold pathStep? at entered
  split at entered
  · simp at entered
  · split at entered <;> simp_all

/-- A part of a path comes from a piece between slashes. -/
theorem exists_piece_of_mem_pathParts {start : Nat} {pieces : List (List UInt8)} {part : PathPart}
    (member : part ∈ pathParts start pieces) :
    ∃ piece ∈ pieces, pathStep? piece = some part.step := by
  induction pieces generalizing start with
  | nil => simp [pathParts] at member
  | cons piece rest ih =>
    simp only [pathParts] at member
    split at member
    · rename_i step entered
      rcases List.mem_cons.mp member with rfl | behind
      · exact ⟨piece, by simp, entered⟩
      · obtain ⟨source, among, entered⟩ := ih behind
        exact ⟨source, List.mem_cons_of_mem _ among, entered⟩
    · obtain ⟨source, among, entered⟩ := ih member
      exact ⟨source, List.mem_cons_of_mem _ among, entered⟩

/-- A part of a path ends in the path's bytes. -/
theorem stop_le_of_mem_pathParts {start : Nat} {pieces : List (List UInt8)} {part : PathPart}
    (member : part ∈ pathParts start pieces) :
    part.stop ≤ start + ([slashByte].intercalate pieces).length := by
  induction pieces generalizing start with
  | nil => simp [pathParts] at member
  | cons piece rest ih =>
    -- What is joined is the piece, and a slash and the others if there are any.
    have first : piece.length ≤ ([slashByte].intercalate (piece :: rest)).length := by
      cases rest <;> simp [List.intercalate_cons_cons]
    have later (behind : part ∈ pathParts (start + piece.length + 1) rest) :
        part.stop ≤ start + ([slashByte].intercalate (piece :: rest)).length := by
      have bounded := ih behind
      cases rest with
      | nil => simp [pathParts] at behind
      | cons next others =>
        rw [List.intercalate_cons_cons, List.length_append, List.length_append, List.length_singleton]
        omega
    simp only [pathParts] at member
    split at member
    · rcases List.mem_cons.mp member with rfl | behind
      · exact Nat.add_le_add_left first start
      · exact later behind
    · exact later member

/-- The name that a path ends with stands behind the part in front of it, and behind a slash. -/
theorem lastName_le_stop {start stop : Nat} {pieces : List (List UInt8)} {front : List PathPart}
    {name : RawText} (ends : pathParts start pieces = front ++ [⟨.enter name, stop⟩]) :
    (front.getLast?.elim start fun above => above.stop + 1) + name.size ≤ stop := by
  induction pieces generalizing start front with
  | nil => simp [pathParts] at ends
  | cons piece rest ih =>
    simp only [pathParts] at ends
    split at ends
    · rename_i step entered
      cases front with
      | nil =>
        -- The piece is the name itself.
        simp only [List.nil_append, List.cons.injEq, PathPart.mk.injEq] at ends
        obtain ⟨⟨rfl, rfl⟩, -⟩ := ends
        simp [eq_of_pathStep? entered, RawText.size]
      | cons first others =>
        simp only [List.cons_append, List.cons.injEq] at ends
        obtain ⟨rfl, ends⟩ := ends
        have bounded := ih ends
        -- The part in front of the name is the last one of the others, or the first one.
        cases others with
        | nil => exact bounded
        | cons second others =>
          rw [List.getLast?_cons_cons]
          rw [List.getLast?_eq_some_getLast (List.cons_ne_nil second others)] at bounded ⊢
          exact bounded
    · -- An empty piece and a dot take up room only.
      have bounded := ih ends
      cases above : front.getLast? with
      | none =>
        rw [above] at bounded
        simp only [Option.elim_none] at bounded ⊢
        omega
      | some part =>
        rw [above] at bounded
        exact bounded

/-- A path has no NUL if none of its names has. -/
theorem DiskPath.hasNul_eq_false {path : DiskPath}
    (nulFree : ∀ name, .enter name ∈ path.steps → 0 ∉ name.bytes) : path.hasNul = false := by
  rw [hasNul, List.any_eq_false]
  intro step member
  cases step with
  | up => simp
  | enter name => simpa using nulFree name member

/-- Parts within the limits make a directory's path within the limits. -/
theorem DiskPath.fits_toDirectory {parts : List PathPart} (absolute : Bool)
    (fits : ∀ part ∈ parts, part.Fits) : (toDirectory absolute parts).Fits where
  nulFree := by
    refine hasNul_eq_false fun name member => ?_
    obtain ⟨part, among, entered⟩ := List.mem_map.mp member
    exact (fits part among).nulFree name entered
  short := by
    -- The path's text ends where its last part does.
    cases ended : parts.getLast? with
    | none => simp [toDirectory, ended]
    | some last => simpa [toDirectory, ended] using (fits last (List.mem_of_getLast? ended)).short
  shortNames := by
    simpa [steps, toDirectory] using fun part member => (fits part member).shortName

/-- Every part of a path that is within the limits is. -/
theorem RawText.FitsPath.part {raw : RawText} (fits : raw.FitsPath) :
    ∀ part ∈ (DiskPath.ofRaw raw).parts, part.Fits := by
  -- The pieces between slashes make up the path.
  have rejoined : [slashByte].intercalate (raw.bytes.splitOn slashByte) = raw.bytes :=
    List.intercalate_splitOn slashByte
  intro part member
  refine ⟨fun name entered nul => ?_, ?_, ?_⟩
  · obtain ⟨piece, among, named⟩ := exists_piece_of_mem_pathParts member
    rw [entered] at named
    rw [eq_of_pathStep? named] at nul
    refine fits.nulFree ?_
    rw [← rejoined]
    exact (mem_intercalate_iff (by decide)).mpr ⟨piece, among, nul⟩
  · have bounded := stop_le_of_mem_pathParts member
    rw [rejoined, Nat.zero_add] at bounded
    exact Nat.le_trans bounded fits.short
  · exact fits.shortNames _ (List.mem_map_of_mem member)

/-! Names -/

/-- A path has a name exactly if it does not lack one. -/
theorem DiskPath.nameless_iff {path : DiskPath} : path.Nameless ↔ path.fileName? = none := by
  unfold Nameless fileName?
  -- A path without steps has no last one.
  rw [← List.getLast?_eq_none_iff]
  rcases path.steps.getLast? with _ | _ | _ <;> simp

/-- A path with a name that is a text does not lack one. -/
theorem DiskPath.not_lacksTextName {path : DiskPath} {text : String}
    (named : path.fileName? = some text) : ¬path.LacksTextName := by
  rintro (nameless | ⟨name, same, raw⟩)
  · simp [nameless_iff.mp nameless] at named
  · obtain rfl := Option.some.inj (named.symm.trans same)
    exact raw ⟨text, rfl⟩

/-- A name that a path ends with is entered by its last part. -/
theorem DiskPath.parts_of_fileName? {path : DiskPath} {name : RawText}
    (named : path.fileName? = some name) :
    ∃ stop, path.parts = path.parts.dropLast ++ [⟨.enter name, stop⟩] := by
  have ended : path.steps.getLast? = some (.enter name) := by
    unfold fileName? at named
    split at named <;> simp_all
  rw [steps, List.getLast?_map, Option.map_eq_some_iff] at ended
  obtain ⟨⟨step, stop⟩, last, rfl⟩ := ended
  obtain ⟨front, parts⟩ := List.getLast?_eq_some_iff.mp last
  exact ⟨stop, by simp [parts]⟩

/-- A file is opened by the steps of the path that names it. -/
theorem DiskPath.steps_file {path : DiskPath} {name : RawText} (named : path.fileName? = some name) :
    (path.parent.file name).steps = path.steps := by
  obtain ⟨stop, parts⟩ := parts_of_fileName? named
  simp only [steps]
  rw [parts]
  simp [file, parent, toDirectory]

/-- The path by which a file is opened is within the limits if the one that names it is. -/
theorem RawText.FitsPath.file {raw name : RawText} (fits : raw.FitsPath)
    (named : (DiskPath.ofRaw raw).fileName? = some name) :
    ((DiskPath.ofRaw raw).parent.file name).Fits where
  nulFree := by
    refine DiskPath.hasNul_eq_false fun other member => ?_
    rw [DiskPath.steps_file named] at member
    obtain ⟨part, among, entered⟩ := List.mem_map.mp member
    exact (fits.part part among).nulFree other entered
  short := by
    obtain ⟨stop, parts⟩ := DiskPath.parts_of_fileName? named
    have behind := lastName_le_stop parts
    have member : ⟨.enter name, stop⟩ ∈ (DiskPath.ofRaw raw).parts := by rw [parts]; simp
    have bounded := (fits.part _ member).short
    have shortName : name.size ≤ 255 :=
      Nat.not_lt.mp (of_decide_eq_false (fits.part _ member).shortName)
    simp only [DiskPath.file, DiskPath.parent, DiskPath.toDirectory, longestPath] at bounded ⊢
    -- The slash in front of the name is in the path, unless the name is all there is.
    cases above : (DiskPath.ofRaw raw).parts.dropLast.getLast? with
    | none => simp only [Option.elim_none]; omega
    | some part =>
      rw [above] at behind
      simp only [Option.elim_some] at behind ⊢
      omega
  shortNames := by
    rw [DiskPath.steps_file named]
    exact fits.shortNames

/-! Texts -/

/-- Bytes without a slash in front of others belong to the first piece. -/
theorem splitOn_slash_append {front : List UInt8} (unbroken : slashByte ∉ front)
    (rest : List UInt8) :
    (front ++ rest).splitOn slashByte = (rest.splitOn slashByte).modifyHead (front ++ ·) := by
  induction front with
  | nil =>
    rw [List.nil_append]
    cases rest.splitOn slashByte <;> rfl
  | cons first others ih =>
    simp only [List.mem_cons, not_or] at unbroken
    obtain ⟨other, unbroken⟩ := unbroken
    simp only [List.splitOn] at ih ⊢
    rw [List.cons_append, List.splitOnP_cons_eq_if_modifyHead, ih unbroken]
    simp [Ne.symm other, Function.comp_def]

/-- The bytes of a text are cut at slashes where the text is. -/
theorem splitOn_slash_flatMap (text : List Char) :
    (text.flatMap String.utf8EncodeChar).splitOn slashByte =
      (text.splitOn '/').map fun piece => piece.flatMap String.utf8EncodeChar := by
  induction text with
  | nil => rfl
  | cons c rest ih =>
    rw [List.flatMap_cons]
    by_cases slash : c = '/'
    · -- A slash is a single byte, which starts a new piece in both.
      have bytes : String.utf8EncodeChar '/' = [slashByte] := by decide
      rw [slash, bytes]
      simp only [List.splitOn] at ih ⊢
      simp [List.splitOnP_cons_eq_if_modifyHead, ih]
    · -- The bytes of any other character go to the first piece, as the character does.
      have unbroken : slashByte ∉ String.utf8EncodeChar c := fun member =>
        slash (eq_of_mem_utf8EncodeChar (by decide) member)
      rw [splitOn_slash_append unbroken, ih]
      simp only [List.splitOn, List.splitOnP_cons_eq_if_modifyHead, beq_iff_eq, slash, if_false]
      cases List.splitOnP (· == '/') rest <;> rfl

/-- The names on the way of a path that is a text are texts. -/
theorem DiskPath.isText_of_ofText {text : String} {name : RawText}
    (entered : .enter name ∈ (ofText text).steps) : name.IsText := by
  obtain ⟨part, member, named⟩ := List.mem_map.mp entered
  obtain ⟨piece, among, taken⟩ := exists_piece_of_mem_pathParts member
  rw [named] at taken
  rw [RawText.bytes_ofString, splitOn_slash_flatMap] at among
  obtain ⟨characters, -, rfl⟩ := List.mem_map.mp among
  refine ⟨String.ofList characters, ?_⟩
  rw [eq_of_pathStep? taken, RawText.mk.injEq, RawText.bytes_ofString, String.toList_ofList]

/-- A path that is a text has a text to name a file by unless it names none. -/
theorem DiskPath.lacksTextName_ofText {text : String} :
    (ofText text).LacksTextName ↔ (ofText text).Nameless := by
  refine ⟨fun lacking => lacking.resolve_right ?_, .inl⟩
  rintro ⟨name, named, raw⟩
  obtain ⟨stop, parts⟩ := parts_of_fileName? named
  have entered : .enter name ∈ (ofText text).steps := by
    rw [steps, parts]
    simp
  exact raw (isText_of_ofText entered)

end BreakpointGlyph
