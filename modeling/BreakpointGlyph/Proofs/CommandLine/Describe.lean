import BreakpointGlyph.CommandLine.Description
import BreakpointGlyph.Proofs.CommandLine.Decoding
import BreakpointGlyph.Proofs.Tooltip.Heading

/-! Describing a location writes one line about all that the command line says, or nothing. -/

namespace BreakpointGlyph

/-! Parameters -/

/-- Reading a typed parameter fails if it lacks its type, and gives all that it says otherwise. -/
theorem Parameter.parse_eq (text : String) :
    parse text = if lacksType text then
        .error (.invalidArgument ("parameter without a type: " ++ text))
      else .ok (typed text) := by
  -- Both parts are told by the first colon.
  have types : trim (((cutAtFirst ':' text.toList).map Prod.fst).getD text.toList) =
      typePart text := by
    rw [cutAtFirst_front, typePart]
  have names : trim (((cutAtFirst ':' text.toList).map Prod.snd).getD []) = namePart text := by
    rw [cutAtFirst_back, namePart]
  simp only [parse, types, names, lacksType, typed, beq_iff_eq]

/-- Reading typed parameters fails at the first one that lacks its type. -/
theorem Parameter.mapM_parse (texts : List String) :
    texts.mapM parse =
      match texts.find? lacksType with
      | some text => .error (.invalidArgument ("parameter without a type: " ++ text))
      | none => .ok (texts.map typed) := by
  induction texts with
  | nil => rfl
  | cons text rest ih =>
    -- What is behind a parameter is looked at only if that one has a type.
    rw [List.mapM_cons, parse_eq, ih, List.find?_cons]
    cases lacksType text with
    | true => rfl
    | false => cases rest.find? lacksType <;> rfl

/-! The position -/

/-- A position is found where the cursor is located. -/
theorem DescribeRequest.position_eq_ok_iff {request : DescribeRequest} {disk : Disk}
    {position : CursorPosition} :
    request.position disk = .ok position ↔ request.Located disk position := by
  constructor
  · intro found
    unfold DescribeRequest.position at found
    split at found
    · rename_i path offset source counted
      split at found
      · simp at found
      · rename_i text read
        exact .inFile source counted read found
    · rename_i elsewhere
      obtain rfl := Except.ok.inj found
      refine .onLine ?_
      -- One of the two is missing, or there would have been a file to look into.
      cases source : request.source with
      | none => exact .inl rfl
      | some path =>
        cases counted : request.offset with
        | none => exact .inr rfl
        | some offset => exact absurd counted (elsewhere path offset source)
  · intro located
    cases located with
    | inFile source counted read found =>
      simp only [DescribeRequest.position, source, counted, read, found]
    | onLine missing =>
      -- Without a file or without an offset there is nothing to look into.
      unfold DescribeRequest.position
      rcases missing with missing | missing <;> rw [missing]
      cases request.source <;> rfl

/-- No position is found in a file that cannot be read. -/
theorem DescribeRequest.Unreadable.position {request : DescribeRequest} {disk : Disk}
    {fault : FileFault} (unreadable : request.Unreadable disk fault)
    (together : request.source ≠ none → request.offset ≠ none) :
    request.position disk = .error (.io fault) := by
  obtain ⟨path, source, read⟩ := unreadable
  -- A file is named together with an offset, so it is looked into.
  obtain ⟨offset, counted⟩ := Option.ne_none_iff_exists'.mp (together (by simp [source]))
  simp only [DescribeRequest.position, source, counted, read]

/-- No position is found behind the end of a file. -/
theorem DescribeRequest.Outside.position {request : DescribeRequest} {disk : Disk}
    {offset length : Nat} (outside : request.Outside disk offset length) :
    request.position disk = .error (.offsetOutOfRange offset length) := by
  obtain ⟨path, text, source, read, counted, rfl, behind⟩ := outside
  have length : (TextSnapshot.ofText text).length = text.length := String.length_toList
  simp only [DescribeRequest.position, source, counted, read, TextSnapshot.positionAt, length,
    if_pos behind]

/-- Nothing else keeps a position from being found. -/
theorem DescribeRequest.exists_position {request : DescribeRequest} {disk : Disk}
    (readable : ¬∃ fault, request.Unreadable disk fault)
    (inside : ¬∃ offset length, request.Outside disk offset length) :
    ∃ position, request.position disk = .ok position := by
  unfold DescribeRequest.position
  split
  · rename_i path offset source counted
    cases read : disk.readText (.ofText path) with
    | error fault => exact absurd ⟨fault, path, source, read⟩ readable
    | ok text =>
      have length : (TextSnapshot.ofText text).length = text.length := String.length_toList
      -- An offset up to the length of the text has a position in it.
      have within : ¬(TextSnapshot.ofText text).length < offset := fun behind =>
        inside ⟨offset, text.length, path, text, source, read, counted, rfl, length ▸ behind⟩
      exact ⟨_, if_neg within⟩
  · exact ⟨_, rfl⟩

/-! The view -/

/-- A view is made unless a parameter of the method that is named lacks its type. -/
theorem DescribeRequest.view_eq (request : DescribeRequest) :
    request.view =
      match request.method with
      | none => .ok .plain
      | some name =>
        match request.parameters.find? lacksType with
        | some text => .error (.invalidArgument ("parameter without a type: " ++ text))
        | none =>
          let statement : MethodStatement := ⟨request.describedMethod name, 0, 0xFFFFFFFF⟩
          .ok (.decompiled ⟨[statement], some .signaturePrinter⟩) := by
  unfold view
  cases request.method with
  | none => rfl
  | some name =>
    simp only [methodNamed, Parameter.mapM_parse]
    cases request.parameters.find? lacksType <;> rfl

/-- A statement from the least IL offset to the greatest one is found at all IL offsets. -/
theorem StatementMap.find?_everywhere (method : Method) (decompiler : Option Decompiler)
    (ilOffset : UInt32) :
    (⟨[⟨method, 0, 0xFFFFFFFF⟩], decompiler⟩ : StatementMap).find? method.id ilOffset =
      some ⟨method, 0, 0xFFFFFFFF⟩ := by
  -- No machine word of 32 bits is above the greatest one.
  have greatest : ilOffset.toNat ≤ 4294967295 := Nat.le_of_lt_succ ilOffset.toNat_lt
  simpa [find?, MethodStatement.answers, MethodStatement.contains, UInt32.le_iff_toNat_le] using
    greatest

/-! The run -/

/-- What a description writes and logs: it looks for the position, then for the view, and writes at
the end only. -/
theorem Command.run_describe (request : DescribeRequest) (disk : Disk) :
    (describe request).run disk =
      match request.position disk with
      | .error error => ⟨{}, some error⟩
      | .ok position =>
        match request.view with
        | .error error => ⟨⟨"", [.describing position request.mapping]⟩, some error⟩
        | .ok view =>
          let outcome := commandFormatters.describe (.native request.location) view position
          ⟨⟨request.write outcome.output.segments, .describing position request.mapping ::
            outcome.output.events ++ [.formatted outcome.handled outcome.output.segments.length]⟩,
            none⟩ := by
  simp only [run, steps, DescribeRequest.steps]
  cases request.position disk with
  | error error => rfl
  | ok position =>
    cases request.view with
    | error error => rfl
    | ok view =>
      -- What is logged and written comes behind nothing.
      show (⟨⟨"" ++ request.write _, [] ++ [_] ++ _ ++ [_]⟩, none⟩ : CommandRun) = _
      simp

/-- A run that succeeds has found its position and made its view. -/
theorem Command.exists_of_succeeded {request : DescribeRequest} {disk : Disk}
    (succeeded : ((describe request).run disk).error? = none) :
    ∃ position view, request.position disk = .ok position ∧ request.view = .ok view := by
  rw [run_describe] at succeeded
  -- Each of the two is looked for before anything is written.
  cases found : request.position disk with
  | error error => simp [found] at succeeded
  | ok position =>
    cases viewed : request.view with
    | error error => simp [found, viewed] at succeeded
    | ok view => exact ⟨position, view, rfl, rfl⟩

/-- A description that fails has written nothing, since it writes at the end only. -/
theorem Command.output_of_failed {request : DescribeRequest} {disk : Disk}
    (failed : ((describe request).run disk).error? ≠ none) :
    ((describe request).run disk).output = "" := by
  rw [run_describe] at failed ⊢
  cases found : request.position disk with
  | error error => rfl
  | ok position =>
    cases viewed : request.view with
    | error error => rfl
    | ok view => simp [found, viewed] at failed

/-- Once the position is found, a description fails at the first parameter that lacks its type. -/
theorem Command.error?_of_position {request : DescribeRequest} {disk : Disk}
    {position : CursorPosition} (found : request.position disk = .ok position)
    (owned : request.parameters ≠ [] → request.method ≠ none) :
    ((describe request).run disk).error? = (request.parameters.find? lacksType).map fun text =>
      .invalidArgument ("parameter without a type: " ++ text) := by
  -- Only making the view can fail from there on.
  simp only [run_describe, found, DescribeRequest.view_eq]
  cases named : request.method with
  | none =>
    -- Without a method there are no parameters.
    have absent : request.parameters = [] := Decidable.byContradiction fun typed => owned typed named
    simp [absent]
  | some name => cases request.parameters.find? lacksType <;> rfl

/-- A description that is accepted fails if its file cannot be read, if its offset is behind the end
of the file, or if a parameter lacks its type. It reports the first of these, and the earliest such
parameter, and then it has written nothing. -/
theorem Command.describe_fails_in_order {arguments : List String} {request : DescribeRequest}
    (accepted : Command.ofArguments arguments = .ok (.describe request)) (disk : Disk) :
    request.Decodes arguments ∧
      request.FailsInOrder disk ((Command.describe request).run disk) := by
  obtain ⟨located, owned⟩ := together_of_accepted accepted
  have unreadable : ∀ fault, request.Unreadable disk fault →
      ((describe request).run disk).error? = some (.io fault) := by
    intro fault unreadable
    rw [run_describe, unreadable.position located]
  have outside : ∀ offset length, request.Outside disk offset length →
      ((describe request).run disk).error? = some (.offsetOutOfRange offset length) := by
    intro offset length outside
    rw [run_describe, outside.position]
  have otherwise : (¬∃ fault, request.Unreadable disk fault) →
      (¬∃ offset length, request.Outside disk offset length) →
      ((describe request).run disk).error? = (request.parameters.find? lacksType).map fun text =>
        .invalidArgument ("parameter without a type: " ++ text) := by
    intro readable inside
    obtain ⟨position, found⟩ := request.exists_position readable inside
    exact error?_of_position found owned
  refine ⟨decodes_of_accepted accepted, ?_, unreadable, outside, ?_, output_of_failed⟩
  · -- The reasons are gone through in the order in which they are met.
    by_cases unread : ∃ fault, request.Unreadable disk fault
    · obtain ⟨fault, unread⟩ := unread
      simp only [unreadable fault unread]
      exact ⟨fun _ => .inl ⟨fault, unread⟩, fun _ => by simp⟩
    · by_cases behind : ∃ offset length, request.Outside disk offset length
      · obtain ⟨offset, length, behind⟩ := behind
        simp only [outside offset length behind]
        exact ⟨fun _ => .inr (.inl ⟨offset, length, behind⟩), fun _ => by simp⟩
      · rw [otherwise unread behind]
        simp [unread, behind]
  · intro readable inside text earliest
    rw [otherwise readable inside, earliest]
    rfl

/-- A disk with one file, of two characters. -/
def shortFileDisk : Disk :=
  ⟨[(["a.cs"], .file "ab".toUTF8)], []⟩

/-- A request for an offset behind the end of that file, with a parameter that lacks its type. -/
def misplacedRequest : DescribeRequest :=
  ({ base := some 1, source := some "a.cs", offset := some 3, method := some "Run",
     parameters := [":x"] } : GivenOptions).request

/-- The offset is reported, and the parameter is not. -/
theorem Command.describe_fails_in_order_outside :
    let arguments := ["describe", "--base", "1", "--source", "a.cs", "--offset", "3", "--method",
      "Run", "--param", ":x"]
    let run := (Command.describe misplacedRequest).run shortFileDisk
    Command.ofArguments arguments = .ok (.describe misplacedRequest) ∧
      run.error? = some (.offsetOutOfRange 3 2) ∧ run.output = "" := by
  intro arguments run
  have accepted : Command.ofArguments arguments = .ok (.describe misplacedRequest) := rfl
  have account := (Command.describe_fails_in_order accepted shortFileDisk).2
  have outside : misplacedRequest.Outside shortFileDisk 3 2 :=
    ⟨"a.cs", "ab", rfl, rfl, rfl, rfl, by decide⟩
  have failed := account.outside 3 2 outside
  exact ⟨accepted, failed, account.silent (failed ▸ Option.some_ne_none _)⟩

/-! The line -/

/-- The segments of the only formatter that the command line has. -/
theorem commandFormatters_segments (location : NativeLocation) (view : TextView)
    (position : CursorPosition) :
    (commandFormatters.describe (.native location) view position).output.segments =
      (nativeOutput {} {} location view position).segments := by
  simp [commandFormatters, GlyphFormatter.describe, GlyphFormatter.write, searchFormatters,
    SearchOutcome.close, GlyphOutput.log, GlyphOutput.append]

/-- The method that is named is quoted, whatever the IL offset is. -/
theorem DescribeRequest.segments_methodPart {request : DescribeRequest} {view : TextView}
    {name : String} (viewed : request.view = .ok view) (named : request.method = some name) :
    (nativeMethodPart {} request.location view).segments =
      quotedMethod .signaturePrinter ⟨request.describedMethod name, 0, 0xFFFFFFFF⟩ := by
  simp only [view_eq, named] at viewed
  cases untyped : request.parameters.find? lacksType with
  | some text => simp [untyped] at viewed
  | none =>
    simp only [untyped, Except.ok.injEq] at viewed
    obtain rfl := viewed
    -- The statement belongs to the very method that is asked about.
    have answered := StatementMap.find?_everywhere (request.describedMethod name)
      (some .signaturePrinter) request.location.ilOffset
    simp only [nativeMethodPart, TextView.decompiled, StatementMap.viewer]
    rw [show request.location.methodId = (request.describedMethod name).id from rfl, answered]
    rfl

/-- A quotation on the command line: the signature of the method that is named, or nothing. -/
theorem DescribeRequest.plainText_methodPart {request : DescribeRequest} {view : TextView}
    (viewed : request.view = .ok view) :
    plainText (nativeMethodPart {} request.location view).segments = request.annotation := by
  unfold annotation
  cases named : request.method with
  | none =>
    -- A view of plain text quotes nothing.
    simp only [view_eq, named, Except.ok.injEq] at viewed
    obtain rfl := viewed
    rfl
  | some name =>
    rw [segments_methodPart viewed named, quotedMethod, plainText_append, plainText_cons]
    rfl

/-- The text that describes a location on the command line. -/
theorem DescribeRequest.plainText_segments {request : DescribeRequest} {view : TextView}
    (viewed : request.view = .ok view) (position : CursorPosition) :
    plainText (commandFormatters.describe (.native request.location) view position).output.segments
        ++ "\n" = request.describedLine position := by
  rw [commandFormatters_segments, nativeOutput, plainText_append, plainText_methodPart viewed]
  -- Both are put together from the same characters.
  apply String.toList_inj.mp
  simp only [describedLine, String.toList_append, toList_nativeHeading, String.toList_join,
    List.flatMap_cons, List.flatMap_nil, List.append_assoc, List.append_nil]
  rfl

/-- A description that is accepted, is not asked for segments and succeeds writes one line: the
position, the IL offset and the address of what the command line says, and the signature of the
method if one is named, whatever the IL offset and its mapping are. -/
theorem Command.describe_output {arguments : List String} {request : DescribeRequest} {disk : Disk}
    (accepted : Command.ofArguments arguments = .ok (.describe request))
    (unsegmented : "--segments" ∉ arguments)
    (succeeded : ((Command.describe request).run disk).error? = none) :
    request.Decodes arguments ∧
      ∃ position, request.Located disk position ∧
        ((Command.describe request).run disk).output = request.describedLine position := by
  have decodes := decodes_of_accepted accepted
  have plain : request.segments = false := by
    simpa using mt decodes.segments.mp unsegmented
  refine ⟨decodes, ?_⟩
  obtain ⟨position, view, found, viewed⟩ := exists_of_succeeded succeeded
  refine ⟨position, DescribeRequest.position_eq_ok_iff.mp found, ?_⟩
  -- The request is for plain text.
  rw [run_describe, found, viewed, ← DescribeRequest.plainText_segments viewed]
  simp [DescribeRequest.write, plain]

/-- A request for a location in a method; what it leaves out has its default. -/
def describedRequest : DescribeRequest :=
  ({ base := some 0x400000, nativeOffset := some 16, ilOffset := some 0x2A, line := some 4,
     column := some 8, method := some "Run", namespaceName := some "App",
     parameters := ["System.Int32:count"], returnType := some "System.Void" } : GivenOptions).request

/-- The line that is written for that request. -/
theorem Command.describe_output_quoted :
    let arguments := ["describe", "--base=0x400000", "--native-offset", "16", "--line", "4",
      "--column", "8", "--il-offset", "0x2A", "--method", "Run", "--namespace", "App", "--param",
      "System.Int32:count", "--returns=System.Void"]
    let run := (Command.describe describedRequest).run shortFileDisk
    Command.ofArguments arguments = .ok (.describe describedRequest) ∧
      "--segments" ∉ arguments ∧ run.error? = none ∧
      run.output =
        "line 5, character 9 0x002A 0x00400010 ('void App.Program.Run(int count)')\n" := by
  intro arguments run
  have accepted : Command.ofArguments arguments = .ok (.describe describedRequest) := rfl
  have unsegmented : "--segments" ∉ arguments := by decide
  have succeeded : run.error? = none := by decide +kernel
  obtain ⟨-, position, located, written⟩ :=
    Command.describe_output accepted unsegmented succeeded
  refine ⟨accepted, unsegmented, succeeded, written.trans ?_⟩
  -- No file is named, so the cursor is where the command line says.
  cases located with
  | inFile source => cases source
  | onLine => decide +kernel

end BreakpointGlyph
