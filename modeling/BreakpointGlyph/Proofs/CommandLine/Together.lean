import BreakpointGlyph.CommandLine.Together
import BreakpointGlyph.Proofs.CommandLine.Describe

/-! A description is accepted if its options go together, and then each is used, but for an offset
that is given with a line or a column in place of a file. -/

namespace BreakpointGlyph

/-! What goes together -/

/-- A line and a column exclude a file. -/
theorem DescribeOption.mem_excluded {option other : DescribeOption} :
    other ∈ option.excluded ↔ (option = .line ∨ option = .column) ∧ other = .source := by
  cases option <;> simp [excluded]

/-- A file and an offset need each other, and what belongs to a method needs the method. -/
theorem DescribeOption.mem_needed {option other : DescribeOption} :
    other ∈ option.needed ↔ (option = .source ∧ other = .offset) ∨
      (option = .offset ∧ other = .source) ∨
      ((option = .parameter ∨ option = .returnType) ∧ other = .method) := by
  cases option <;> simp [needed]

/-- Only a line and a column exclude a file, and only a file is excluded by them. -/
theorem DescribeOption.excludes_iff {option other : DescribeOption} :
    option.Excludes other ↔ ((option = .line ∨ option = .column) ∧ other = .source) ∨
      ((other = .line ∨ other = .column) ∧ option = .source) := by
  rw [Excludes, mem_excluded, mem_excluded]

/-- Options that are declared to go together do so if a file comes with an offset and without line
or column, an offset comes with any of the three, and what belongs to a method comes with it. -/
theorem goTogether_iff {given : DescribeOption → Prop} :
    GoTogether given ↔ given .base ∧
      (given .source → given .offset ∧ ¬given .line ∧ ¬given .column) ∧
      (given .offset → given .source ∨ given .line ∨ given .column) ∧
      (given .parameter ∨ given .returnType → given .method) := by
  -- The declared relations are few, so each of them is gone through on its own.
  constructor
  · intro together
    -- Nothing but a file is excluded where another option needs it.
    have present : ∀ option, ∀ other ∈ option.needed, other ≠ .source → given option →
        given other := by
      intro option other needed unlike there
      refine (together.complete option other needed there).resolve_right ?_
      intro ⟨excluding, _, excludes⟩
      rw [DescribeOption.mem_needed] at needed
      rw [DescribeOption.excludes_iff] at excludes
      rcases needed with ⟨-, rfl⟩ | ⟨-, rfl⟩ | ⟨-, rfl⟩ <;> simp_all
    refine ⟨together.based, ?_, ?_, ?_⟩
    · -- A file that is there is excluded by nothing, and brings its offset along.
      intro source
      have offset := present .source .offset (by decide) (by decide) source
      have noLine : ¬given .line := fun line =>
        together.compatible .line .source line source (.inl (by decide))
      have noColumn : ¬given .column := fun column =>
        together.compatible .column .source column source (.inl (by decide))
      exact ⟨offset, noLine, noColumn⟩
    · -- If the file of an offset is not there, something that excludes it is.
      intro offset
      refine (together.complete .offset .source (by decide) offset).imp_right ?_
      intro ⟨excluding, there, excludes⟩
      have alternatives : excluding = .line ∨ excluding = .column := by
        simpa [DescribeOption.excludes_iff] using excludes
      rcases alternatives with rfl | rfl
      · exact .inl there
      · exact .inr there
    · intro owned
      cases owned with
      | inl parameter => exact present .parameter .method (by decide) (by decide) parameter
      | inr returnType => exact present .returnType .method (by decide) (by decide) returnType
  · intro ⟨based, file, offset, method⟩
    refine ⟨?_, based, ?_⟩
    · intro option other there otherThere excludes
      rw [DescribeOption.excludes_iff] at excludes
      -- Whichever of the two is the file, the other one is not there.
      rcases excludes with ⟨rfl | rfl, rfl⟩ | ⟨rfl | rfl, rfl⟩
      · exact (file otherThere).2.1 there
      · exact (file otherThere).2.2 there
      · exact (file there).2.1 otherThere
      · exact (file there).2.2 otherThere
    · intro option other needed there
      rw [DescribeOption.mem_needed] at needed
      rcases needed with ⟨rfl, rfl⟩ | ⟨rfl, rfl⟩ | ⟨owned, rfl⟩
      · exact .inl (file there).1
      · -- A line or a column makes up for a file that is missing.
        refine (offset there).imp_right ?_
        intro alternatives
        cases alternatives with
        | inl line => exact ⟨.line, line, .inl (by decide)⟩
        | inr column => exact ⟨.column, column, .inl (by decide)⟩
      · refine .inl (method ?_)
        rcases owned with rfl | rfl
        · exact .inl there
        · exact .inr there

/-! What is accepted -/

/-- Options as a command line gives them pass both checks exactly if they go together. -/
theorem GivenOptions.compatible_and_complete_iff {given : GivenOptions} {arguments : List String}
    (matched : ∀ option, given.Matches (givenTexts option arguments) option) :
    given.conflicting = false ∧ given.incomplete = false ↔ GoTogether (Gives arguments) := by
  -- An option that is given has a value, and the values are what the two checks look at.
  have base : given.base.isSome = true ↔ Gives arguments .base :=
    DecodedOnce.isSome_iff (matched .base)
  have source : given.source.isSome = true ↔ Gives arguments .source :=
    DecodedOnce.isSome_iff (matched .source)
  have offset : given.offset.isSome = true ↔ Gives arguments .offset :=
    DecodedOnce.isSome_iff (matched .offset)
  have line : given.line.isSome = true ↔ Gives arguments .line :=
    DecodedOnce.isSome_iff (matched .line)
  have column : given.column.isSome = true ↔ Gives arguments .column :=
    DecodedOnce.isSome_iff (matched .column)
  have method : given.method.isSome = true ↔ Gives arguments .method :=
    DecodedOnce.isSome_iff (matched .method)
  have returnType : given.returnType.isSome = true ↔ Gives arguments .returnType :=
    DecodedOnce.isSome_iff (matched .returnType)
  have parameters : given.parameters.isEmpty = false ↔ Gives arguments .parameter := by
    have same : given.parameters = givenTexts .parameter arguments := matched .parameter
    simp [Gives, same]
  rw [goTogether_iff, ← base, ← source, ← offset, ← line, ← column, ← method,
    ← returnType, ← parameters]
  -- What is left is to compare two conditions on which of the eight options have a value.
  simp only [conflicting, incomplete, ← Option.not_isSome]
  grind

/-- Words that can be read are accepted as a description exactly if their options go together. -/
theorem Command.accepted_iff_goTogether {words : List String} {given : GivenOptions}
    (reads : GivenOptions.read {} none words = .ok given) :
    Command.ofArguments ("describe" :: words) = .ok (.describe given.request) ↔
      GoTogether (Gives ("describe" :: words)) := by
  rw [← GivenOptions.compatible_and_complete_iff (GivenOptions.matches_of_read reads), accepted_iff]
  constructor
  · intro ⟨others, other, same, otherReads, compatible, complete, _⟩
    -- The words are read in one way only.
    obtain rfl := (List.cons.inj same).2
    obtain rfl := Except.ok.inj (reads.symm.trans otherReads)
    exact ⟨compatible, complete⟩
  · intro ⟨compatible, complete⟩
    exact ⟨words, given, rfl, reads, compatible, complete, rfl⟩

/-- The options of a description that is accepted go together. -/
theorem Command.goTogether_of_accepted {arguments : List String} {request : DescribeRequest}
    (accepted : Command.ofArguments arguments = .ok (.describe request)) :
    GoTogether (Gives arguments) := by
  obtain ⟨words, given, rfl, reads, -, -, rfl⟩ := accepted_iff.mp accepted
  exact (accepted_iff_goTogether reads).mp accepted

/-! What is used -/

/-- Without a file the position is that of the line and the column. -/
theorem DescribeRequest.position_of_source_none {request : DescribeRequest}
    (nowhere : request.source = none) (disk : Disk) :
    request.position disk = .ok ⟨request.line, request.column⟩ :=
  position_eq_ok_iff.mpr (.onLine (.inl nowhere))

/-- Without a file the offset makes no difference to a run. -/
theorem Command.run_of_source_none {request : DescribeRequest} (nowhere : request.source = none)
    (offset : Option Nat) (disk : Disk) :
    (describe { request with offset }).run disk = (describe request).run disk := by
  -- The position is the same, whatever the offset is.
  have placed := DescribeRequest.position_of_source_none nowhere disk
  have sameNowhere : ({ request with offset } : DescribeRequest).source = none := nowhere
  have samePlaced := DescribeRequest.position_of_source_none sameNowhere disk
  -- Nothing else depends on the offset.
  rw [run_describe, run_describe, placed, samePlaced]
  rfl

/-- A request that names a method quotes it, with all that is given for it. -/
theorem DescribeRequest.Decodes.quotes {request : DescribeRequest} {arguments : List String}
    (decodes : request.Decodes arguments) {name : String} (named : request.method = some name) :
    request.Quotes arguments (request.describedMethod name) where
  named := by
    obtain ⟨text, given, read⟩ := (named ▸ decodes.method : DecodedOnce _ _ (some name)).exists_text
    obtain rfl := Except.ok.inj read
    exact given
  parameters := congrArg (List.map Parameter.typed) decodes.parameters
  returnType := decodes.returnType.eq_head?
  printed := by
    -- The heading comes first, whatever the position is.
    intro disk segments described
    obtain ⟨located, viewed⟩ := described
    rw [commandFormatters_segments, nativeOutput, segments_methodPart viewed named]
    exact ⟨_, rfl⟩

/-- The options of a description that is accepted are used, but for an offset that is given with a
line or a column. -/
theorem Command.usesOptions_of_accepted {arguments : List String} {request : DescribeRequest}
    (accepted : Command.ofArguments arguments = .ok (.describe request)) :
    request.UsesOptions arguments := by
  -- An option that is given is one that the request has a value for.
  have decodes := decodes_of_accepted accepted
  obtain ⟨-, file, offset, method⟩ := goTogether_iff.mp (goTogether_of_accepted accepted)
  have source : request.source.isSome = true ↔ Gives arguments .source := decodes.source.isSome_iff
  have counted : request.offset.isSome = true ↔ Gives arguments .offset := decodes.offset.isSome_iff
  have named : request.method.isSome = true ↔ Gives arguments .method := decodes.method.isSome_iff
  have absent : ¬Gives arguments .source → request.source = none := by
    intro nowhere
    rwa [← source, Option.not_isSome_iff_eq_none] at nowhere
  refine ⟨file, ?_, ?_, ?_, ?_, method, ?_⟩
  · -- Where there is an offset without a file, there is a line or a column.
    constructor
    · intro paired ⟨present, alternatives⟩
      have excluded := file (paired.mpr present)
      exact alternatives.elim excluded.2.1 excluded.2.2
    · intro alone
      refine ⟨fun present => (file present).1, fun present => ?_⟩
      exact (offset present).resolve_right fun alternatives => alone ⟨present, alternatives⟩
  · -- A file that is named is named with an offset.
    rw [← source, ← Option.not_isSome_iff_eq_none, ← Option.not_isSome_iff_eq_none]
    constructor
    · intro missing present
      have both := counted.mpr (file (source.mp present)).1
      exact missing.elim (· present) (· both)
    · exact .inl
  · intro nowhere disk
    exact DescribeRequest.position_of_source_none (absent nowhere) disk
  · intro nowhere disk offset
    exact run_of_source_none (absent nowhere) offset disk
  · intro present
    obtain ⟨name, same⟩ := Option.isSome_iff_exists.mp (named.mpr present)
    exact ⟨request.describedMethod name, decodes.quotes same⟩

/-- A request for an offset in a file, and for a method with a parameter and a return type. -/
def locatedRequest : DescribeRequest :=
  ({ base := some 1, source := some "a.cs", offset := some 2, method := some "Run",
     parameters := ["int:x"], returnType := some "void" } : GivenOptions).request

/-- The file comes with an offset and without a line, and the method has the parameter. -/
theorem Command.usesOptions_of_accepted_located :
    let arguments := ["describe", "--base", "1", "--offset=2", "--source", "a.cs", "--method", "Run",
      "--param", "int:x", "--returns=void"]
    Command.ofArguments arguments = .ok (.describe locatedRequest) ∧ Gives arguments .offset ∧
      ¬Gives arguments .line ∧ ∃ method, locatedRequest.Quotes arguments method := by
  intro arguments
  have accepted : Command.ofArguments arguments = .ok (.describe locatedRequest) := rfl
  have used := Command.usesOptions_of_accepted accepted
  have source : Gives arguments .source := by decide +kernel
  have method : Gives arguments .method := by decide +kernel
  exact ⟨accepted, (used.file source).1, (used.file source).2.1, used.quoted method⟩

/-- A request for an offset and for a line. -/
def strayRequest : DescribeRequest :=
  ({ base := some 1, line := some 2, offset := some 3 } : GivenOptions).request

/-- An offset is accepted without a file if there is a line, which is what is described then. -/
theorem Command.offset_without_source :
    let arguments := ["describe", "--base", "1", "--offset", "3", "--line", "2"]
    Command.ofArguments arguments = .ok (.describe strayRequest) ∧ Gives arguments .offset ∧
      ¬Gives arguments .source ∧
      ((Command.describe strayRequest).run shortFileDisk).output =
        "line 3, character 1 0x0000 0x00000001\n" ∧
      ¬∀ (arguments : List String) (request : DescribeRequest),
        Command.ofArguments arguments = .ok (.describe request) →
          (Gives arguments .source ↔ Gives arguments .offset) := by
  intro arguments
  have accepted : Command.ofArguments arguments = .ok (.describe strayRequest) := rfl
  have offset : Gives arguments .offset := by decide +kernel
  have nowhere : ¬Gives arguments .source := by decide +kernel
  refine ⟨accepted, offset, nowhere, by decide +kernel, fun claimed => ?_⟩
  exact nowhere ((claimed arguments strayRequest accepted).mpr offset)

end BreakpointGlyph
