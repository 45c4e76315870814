import BreakpointGlyph.CommandLine.SegmentLines
import BreakpointGlyph.Proofs.CommandLine.Describe
import BreakpointGlyph.Proofs.Signature.Characters

/-! Segments and plain text show the same: the text can be read back from the lines of segments. -/

namespace BreakpointGlyph

/-! Reading with and without the request for segments -/

section

variable {given later : GivenOptions}

/-- A value is given whether segments are asked for or not. -/
theorem GivenOptions.give_flagged {option : DescribeOption} {text : String}
    (gives : given.give option text = .ok later) (segments : Bool) :
    (given.flagged segments).give option text = .ok (later.flagged segments) := by
  -- Every option looks only at what has been given for it before.
  cases option with
  | parameter =>
    obtain rfl := Except.ok.inj gives
    rfl
  | _ =>
    obtain ⟨value, once, rfl⟩ := eq_ok_of_map gives
    exact congrArg (Except.map _) once

/-- What is pending is settled whether segments are asked for or not. -/
theorem GivenOptions.settle_flagged {pending : Option PendingOption}
    (settles : given.settle pending = .ok later) (segments : Bool) :
    (given.flagged segments).settle pending = .ok (later.flagged segments) := by
  -- An option without a text cannot be settled, so that case does not occur.
  rcases pending with _ | ⟨option, _ | text⟩
  · obtain rfl := Except.ok.inj settles
    rfl
  · simp [settle] at settles
  · exact give_flagged settles segments

/-- What is pending may be settled before the next word is read, if it can be. -/
theorem GivenOptions.read_settled {pending : Option PendingOption}
    (settles : given.settle pending = .ok later) (words : List String) :
    given.read pending words = later.read none words := by
  -- On the one side it is settled by the next word, and on the other there is nothing to settle.
  have settled : later.settle none = .ok later := rfl
  cases words with
  | nil => exact settles
  | cons word rest =>
    unfold GivenOptions.read
    rw [settles, settled]
    -- No text is waited for, so a plain word is refused on both sides.
    cases ArgumentWord.ofText word with
    | plain =>
      rcases pending with _ | ⟨option, _ | text⟩
      · rfl
      · simp [settle] at settles
      · rfl
    | _ => rfl

end

/-- A word that does not ask for segments is kept. -/
theorem withoutSegments_cons {word : String} (other : word ≠ "--segments") (rest : List String) :
    withoutSegments (word :: rest) = word :: withoutSegments rest :=
  List.filter_cons_of_pos (by simpa using other)

/-- Words that are read give the same values without the request for segments among them, whether
segments have been asked for before or not. -/
theorem GivenOptions.read_withoutSegments {words : List String} (segments : Bool) :
    ∀ {given later : GivenOptions} {pending : Option PendingOption},
      given.read pending words = .ok later →
      (given.flagged segments).read pending (withoutSegments words) =
        .ok (later.flagged segments) := by
  -- What has been given and what is pending change with every word, so both stay quantified over.
  induction words with
  | nil =>
    intro given later pending reads
    exact settle_flagged reads segments
  | cons word rest ih =>
    intro given later pending reads
    rcases GivenOptions.read_cons reads with ⟨shape, rfl, settles⟩ |
      ⟨shape, settled, extended, settles, gives, read⟩ |
      ⟨other, text, shape, settled, extended, settles, gives, read⟩ |
      ⟨other, shape, settled, settles, read⟩ | ⟨other, shape, rfl, read⟩
    · -- The end of the options is marked on both sides.
      rw [withoutSegments_cons (ne_segments_of_shape shape (by simp))]
      simpa [GivenOptions.read, shape, withoutSegments] using settle_flagged settles segments
    · -- What is pending is settled here, and without this word by the one behind it.
      obtain rfl : word = "--segments" := eq_of_ofText_long shape
      obtain ⟨-, rfl⟩ := eq_of_giveSegments gives
      have unasked := settle_flagged settles segments
      have dropped : withoutSegments ("--segments" :: rest) = withoutSegments rest := rfl
      have later := ih read
      rw [dropped, read_settled unasked]
      exact later
    · -- A word with a text, one whose text comes next, and that text are read as before.
      rw [withoutSegments_cons (ne_segments_of_shape shape (by simp))]
      simp [GivenOptions.read, shape, LongName.ofText?_name, settle_flagged settles segments,
        give_flagged gives segments, ih read, bind, Except.bind]
    · rw [withoutSegments_cons (ne_segments_of_shape shape (by simp [other.name_ne_segments]))]
      simp [GivenOptions.read, shape, LongName.ofText?_name, settle_flagged settles segments,
        ih read, bind, Except.bind]
    · rw [withoutSegments_cons (ne_segments_of_shape shape (by simp))]
      simp [GivenOptions.read, shape, ih read]

/-- A description that is accepted is accepted without the request for segments too. -/
theorem Command.accepted_withoutSegments {arguments : List String} {request : DescribeRequest}
    (accepted : Command.ofArguments arguments = .ok (.describe request)) :
    Command.ofArguments (withoutSegments arguments) = .ok (.describe (request.flagged false)) := by
  obtain ⟨words, given, rfl, reads, compatible, complete, rfl⟩ := accepted_iff.mp accepted
  -- Whether the options go together does not depend on the request for segments.
  exact accepted_iff.mpr ⟨withoutSegments words, given.flagged false, rfl,
    GivenOptions.read_withoutSegments false reads, compatible, complete, rfl⟩

/-- A description that is accepted is accepted with the request for segments too. -/
theorem Command.accepted_withSegments {arguments : List String} {request : DescribeRequest}
    (accepted : Command.ofArguments arguments = .ok (.describe request)) :
    Command.ofArguments (withSegments arguments) = .ok (.describe (request.flagged true)) := by
  obtain ⟨words, given, rfl, reads, compatible, complete, rfl⟩ := accepted_iff.mp accepted
  have asked := GivenOptions.segments_read reads
  by_cases member : "--segments" ∈ words
  · -- Segments are asked for already.
    have same : given.request.flagged true = given.request := by
      simp [DescribeRequest.flagged, GivenOptions.request, asked.mpr (.inr member)]
    have kept : withSegments ("describe" :: words) = "describe" :: words :=
      if_pos (List.mem_cons_of_mem _ member)
    rw [kept, same]
    exact accepted
  · have added : withSegments ("describe" :: words) = "describe" :: "--segments" :: words :=
      if_neg (by simpa using member)
    have unchanged : withoutSegments words = words := by
      rw [withoutSegments, List.filter_eq_self]
      intro word inWords
      have other : word ≠ "--segments" := fun same => member (same ▸ inWords)
      simpa using other
    -- Behind the request the words are read as they have been without it.
    have read : (GivenOptions.flagged true {}).read none words = .ok (given.flagged true) := by
      simpa only [unchanged] using GivenOptions.read_withoutSegments true reads
    rw [added]
    exact accepted_iff.mpr ⟨"--segments" :: words, given.flagged true, rfl, read, compatible,
      complete, rfl⟩

/-! Line feeds -/

/-- A parameter that is typed on one line has its texts on one line. -/
theorem Parameter.singleLine_typed {typed text : String} (single : SingleLine typed)
    (ofParameter : text ∈ (Parameter.typed typed).texts) : SingleLine text := by
  -- Both parts are cut from what is typed, and then trimmed.
  have inType : '\n' ∉ typePart typed := fun member =>
    single ((List.takeWhile_sublist _).subset (mem_of_mem_trim member))
  have inName : '\n' ∉ namePart typed := fun member =>
    single ((List.dropWhile_sublist _).subset ((List.drop_sublist 1 _).subset
      (mem_of_mem_trim member)))
  simp only [Parameter.texts, Parameter.typed, List.mem_cons] at ofParameter
  rcases ofParameter with rfl | named
  · simpa [SingleLine] using inType
  · -- A name that is blank is none.
    split at named
    · simp at named
    · obtain rfl : text = String.ofList (namePart typed) := by simpa using named
      simpa [SingleLine] using inName

/-- The method that a request describes has its texts on one line if the command line gives them
so. -/
theorem DescribeRequest.Decodes.singleLine_texts {request : DescribeRequest}
    {arguments : List String} (decodes : request.Decodes arguments)
    (single : ∀ option ∈ shownOptions, ∀ text ∈ givenTexts option arguments, SingleLine text)
    {name : String} (named : request.method = some name) :
    ∀ text ∈ (request.describedMethod name).texts, SingleLine text := by
  -- Each text of the method is given by one option, or is the default of one.
  intro text ofMethod
  simp only [Method.texts, describedMethod, List.mem_append, List.mem_cons, List.not_mem_nil,
    or_false, List.mem_flatMap, List.mem_map] at ofMethod
  rcases ofMethod with ((rfl | rfl | rfl) | returned) | ⟨_, ⟨typed, listed, rfl⟩, ofParameter⟩
  · exact decodes.namespaceName.of_texts (single .namespaceName (by decide))
      (by simp [SingleLine])
  · exact decodes.declaringType.of_texts (single .declaringType (by decide))
      (by simp [SingleLine])
  · exact (named ▸ decodes.method : DecodedOnce _ _ (some _)).of_texts (single .method (by decide))
  · rw [Option.mem_toList] at returned
    exact (returned ▸ decodes.returnType : DecodedOnce _ _ (some _)).of_texts
      (single .returnType (by decide))
  · rw [decodes.parameters] at listed
    exact Parameter.singleLine_typed (single .parameter (by decide) typed listed) ofParameter

/-- A heading stands on one line. -/
theorem singleLine_nativeHeading (location : NativeLocation) (position : CursorPosition) :
    SingleLine (plainText (nativeHeading {} location position)) := by
  -- A line feed is white space and no digit, so there is none in the numbers.
  have feed : isBlank '\n' = true := by decide
  have line : '\n' ∉ position.shownLine.repr.toList := not_mem_repr rfl _
  have character : '\n' ∉ position.shownCharacter.repr.toList := not_mem_repr rfl _
  have ilOffset := blank_not_mem (visible_ilOffsetText location.mapping location.ilOffset) feed
  have address := blank_not_mem (numberOf_hexText 8 location.addressNumber).visible feed
  rw [SingleLine, toList_nativeHeading]
  simp only [List.mem_append, not_or]
  -- The words and the spaces between the numbers have no line feed either.
  exact ⟨by decide, line, by decide, character, by decide, ilOffset, by decide, address⟩

/-- What is said about a method stands on one line if its texts do. -/
theorem DescribeRequest.Decodes.singleLine_annotation {request : DescribeRequest}
    {arguments : List String} (decodes : request.Decodes arguments)
    (single : ∀ option ∈ shownOptions, ∀ text ∈ givenTexts option arguments, SingleLine text) :
    SingleLine request.annotation := by
  unfold annotation
  cases named : request.method with
  | none => simp [SingleLine]
  | some name =>
    -- A line feed in the signature would be one of the texts that it is made from.
    have signature : '\n' ∉
        (plainText (signatureSegments .all (request.describedMethod name))).toList := by
      intro member
      obtain ⟨text, ofMethod, inText⟩ := exists_text_of_mem_signatureSegments (by decide) member
      exact decodes.singleLine_texts single named text ofMethod inText
    simp [SingleLine, signature]

/-- The text of a description stands on one line if what it shows of the command line does. -/
theorem DescribeRequest.Describes.singleLine {request : DescribeRequest} {arguments : List String}
    {disk : Disk} {segments : List Segment} (described : request.Describes disk segments)
    (decodes : request.Decodes arguments)
    (single : ∀ option ∈ shownOptions, ∀ text ∈ givenTexts option arguments, SingleLine text) :
    SingleLine (plainText segments) := by
  obtain ⟨located, viewed⟩ := described
  -- The text is that of the heading and what is said about the method.
  rw [commandFormatters_segments, nativeOutput, plainText_append, plainText_methodPart viewed,
    SingleLine, String.toList_append, List.mem_append]
  intro member
  cases member with
  | inl inHeading => exact singleLine_nativeHeading _ _ inHeading
  | inr inAnnotation => exact decodes.singleLine_annotation single inAnnotation

/-! Lines -/

/-- There is no tab in the name of a color. -/
theorem TextColor.tab_not_mem_name (color : TextColor) : '\t' ∉ color.name.toList := by
  cases color <;> decide

/-- There is no line feed in the name of a color. -/
theorem TextColor.singleLine_name (color : TextColor) : SingleLine color.name := by
  cases color <;> simp [SingleLine, name]

/-- The line of a segment is cut behind the name of its color. -/
theorem Segment.cut_line (segment : Segment) :
    cutAtFirst '\t' segment.line = some (segment.color.name.toList, segment.text.toList) := by
  have shape : segment.line = segment.color.name.toList ++ '\t' :: segment.text.toList := by
    simp [line]
  -- A tab in the text of the segment comes later.
  rw [shape]
  exact cutAtFirst_append segment.color.tab_not_mem_name segment.text.toList

/-- The lines of segments have a line feed between two of them, and the last of them is empty. -/
theorem toList_segmentLines (segments : List Segment) :
    (segmentLines segments).toList = ['\n'].intercalate (segments.map Segment.line ++ [[]]) := by
  -- The induction is on the segments, each of which writes its line and a line feed.
  induction segments with
  | nil => simp [segmentLines]
  | cons segment rest ih =>
    have written : (segmentLines (segment :: rest)).toList =
        segment.line ++ ['\n'] ++ (segmentLines rest).toList := by
      simp [segmentLines, Segment.line]
    -- There is a line behind that of the first segment, even if it is the empty one only.
    rw [written, ih, List.map_cons, List.cons_append, List.intercalate_cons_of_ne_nil (by simp)]

/-- The line of a segment has no line feed if its text has none. -/
theorem Segment.lineFeed_not_mem_line {segment : Segment} (single : SingleLine segment.text) :
    '\n' ∉ segment.line := by
  have named := segment.color.singleLine_name
  unfold SingleLine at named single
  simp [line, named, single]

/-- The lines of segments are found again if the text of the segments has no line feed. -/
theorem splitOn_segmentLines {segments : List Segment} (single : SingleLine (plainText segments)) :
    (segmentLines segments).toList.splitOn '\n' = segments.map Segment.line ++ [[]] := by
  -- Lines without line feeds come apart again where they have been put together.
  have unbroken : ∀ line ∈ segments.map Segment.line ++ [[]], '\n' ∉ line := by
    intro line member
    rcases List.mem_append.mp member with ofSegment | last
    · obtain ⟨segment, listed, rfl⟩ := List.mem_map.mp ofSegment
      apply Segment.lineFeed_not_mem_line
      -- The text of a segment is a part of the whole.
      intro inText
      apply single
      rw [toList_plainText]
      exact List.mem_flatMap.mpr ⟨segment, listed, inText⟩
    · simp [List.mem_singleton.mp last]
  rw [toList_segmentLines]
  exact List.splitOn_intercalate '\n' unbroken (by simp)

/-- Behind the first tabs of the lines of segments there are the texts of the segments. -/
theorem textBehindTabs_lines (segments : List Segment) :
    textBehindTabs (segments.map Segment.line ++ [[]]) = plainText segments := by
  -- The empty line behind the last line feed has no tab, so nothing is read from it.
  have empty : cutAtFirst '\t' [] = none := rfl
  apply String.toList_inj.mp
  rw [textBehindTabs, String.toList_ofList, toList_plainText, List.flatMap_append,
    List.flatMap_map]
  simp [Segment.cut_line, empty]

/-- A description that succeeds writes the same segments as lines if it is asked for segments, and
as plain text if it is not. -/
theorem Command.result_of_succeeded {request : DescribeRequest} {disk : Disk}
    (succeeded : ((Command.describe request).run disk).error? = none) :
    ∃ segments, request.Describes disk segments ∧
      ((describe (request.flagged true)).run disk).result = .ok (segmentLines segments) ∧
      ((describe (request.flagged false)).run disk).result = .ok (plainText segments ++ "\n") := by
  obtain ⟨position, view, found, viewed⟩ := exists_of_succeeded succeeded
  -- Neither the position nor the view depends on what is asked for.
  have run : ∀ asked, ((describe (request.flagged asked)).run disk).result =
      .ok ((request.flagged asked).write
        (commandFormatters.describe (.native request.location) view position).output.segments) := by
    intro asked
    have samePosition : (request.flagged asked).position disk = .ok position := found
    have sameView : (request.flagged asked).view = .ok view := viewed
    rw [run_describe, samePosition, sameView]
    rfl
  exact ⟨_, .found (DescribeRequest.position_eq_ok_iff.mp found) viewed, run true, run false⟩

/-- A description that is accepted and succeeds writes the same segments with and without the
request for them. If no text that it shows has a line feed, each segment has a line of its own, and
the plain text is what stands behind the first tabs of those lines. -/
theorem Command.segments_read_back {arguments : List String} {request : DescribeRequest}
    {disk : Disk} (accepted : Command.ofArguments arguments = .ok (.describe request))
    (succeeded : ((Command.describe request).run disk).error? = none)
    (single : ∀ option ∈ shownOptions, ∀ text ∈ givenTexts option arguments, SingleLine text) :
    Command.ofArguments (withSegments arguments) = .ok (.describe (request.flagged true)) ∧
      Command.ofArguments (withoutSegments arguments) = .ok (.describe (request.flagged false)) ∧
      ∃ segments lined plain, request.Describes disk segments ∧
        ((Command.describe (request.flagged true)).run disk).result = .ok lined ∧
        ((Command.describe (request.flagged false)).run disk).result = .ok plain ∧
        SameSegments segments lined plain := by
  obtain ⟨segments, described, lined, plain⟩ := result_of_succeeded succeeded
  have lines := splitOn_segmentLines (described.singleLine (decodes_of_accepted accepted) single)
  -- Reading the lines gives back the texts that the plain text is made of.
  refine ⟨accepted_withSegments accepted, accepted_withoutSegments accepted, segments, _, _,
    described, lined, plain, lines, fun segment _ => segment.cut_line, ?_⟩
  rw [lines, textBehindTabs_lines]

/-- A request for a method that has a tab in its name, and in the type of its parameter. -/
def tabbedRequest : DescribeRequest :=
  ({ base := some 1, method := some "Go\tTo", parameters := ["List<\tint> : xs"],
     segments := true } : GivenOptions).request

/-- Lines for that request are read up to their first tab, and the text has the other tab too. -/
theorem Command.segments_read_back_tabs :
    let arguments := ["describe", "--base=1", "--segments", "--method", "Go\tTo", "--param",
      "List<\tint> : xs"]
    Command.ofArguments arguments = .ok (.describe tabbedRequest) ∧
      ((Command.describe tabbedRequest).run shortFileDisk).error? = none ∧
      (∀ option ∈ shownOptions, ∀ text ∈ givenTexts option arguments, SingleLine text) ∧
      ∃ segments lined, SameSegments segments lined
        "line 1, character 1 0x0000 0x00000001 ('Program.Go\tTo(List<int> xs)')\n" := by
  intro arguments
  have accepted : Command.ofArguments arguments = .ok (.describe tabbedRequest) := rfl
  have succeeded : ((Command.describe tabbedRequest).run shortFileDisk).error? = none := by
    decide +kernel
  have single : ∀ option ∈ shownOptions, ∀ text ∈ givenTexts option arguments,
      SingleLine text := by
    decide +kernel
  obtain ⟨-, -, segments, lined, plain, -, -, written, same⟩ :=
    Command.segments_read_back accepted succeeded single
  have result : ((Command.describe (tabbedRequest.flagged false)).run shortFileDisk).result.toOption =
      some "line 1, character 1 0x0000 0x00000001 ('Program.Go\tTo(List<int> xs)')\n" := by
    decide +kernel
  rw [written] at result
  exact ⟨accepted, succeeded, single, segments, lined, Option.some.inj result ▸ same⟩

end BreakpointGlyph
