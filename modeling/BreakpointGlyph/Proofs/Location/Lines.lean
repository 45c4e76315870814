import BreakpointGlyph.Location.Lines
import BreakpointGlyph.Proofs.Location.Order

/-! However the breaks of a text are spelled, its lines start where they are written, and positions
are counted from there. -/

namespace BreakpointGlyph

/-! Where lines start -/

/-- No line starts inside of a line. -/
theorem laterLineStarts_line (offset : Nat) (line : Line) (rest : List Char) :
    laterLineStarts offset (line.text ++ rest) =
      laterLineStarts (offset + line.text.length) rest := by
  obtain ⟨text, unbroken⟩ := line
  dsimp only
  induction text generalizing offset with
  | nil => rfl
  | cons c others ih =>
    -- The first character ends nothing, whatever comes behind it.
    obtain ⟨noReturn, noFeed⟩ := unbroken c (by simp)
    have goesOn : endsLine c (others ++ rest) = false := by simp [endsLine, noReturn, noFeed]
    have further : offset + 1 + others.length = offset + (others.length + 1) := by omega
    have tail := ih (offset + 1) fun other member => unbroken other (by simp [member])
    simp [laterLineStarts_cons, goesOn, tail, further]

/-- A line starts behind each break, unless the break goes on with the text behind it. -/
theorem laterLineStarts_break (offset : Nat) {ending : LineBreak} {rest : List Char}
    (separate : ending = .carriage → rest.head? ≠ some '\n') :
    laterLineStarts offset (ending.text ++ rest) =
      (offset + ending.text.length) :: laterLineStarts (offset + ending.text.length) rest := by
  cases ending with
  | feed => simp [LineBreak.text, laterLineStarts_cons, endsLine]
  | pair => simp [LineBreak.text, laterLineStarts_cons, endsLine]
  | carriage => simp [LineBreak.text, laterLineStarts_cons, endsLine, separate rfl]

/-- A line starts behind each ended line, unless its break goes on with the text behind it. -/
theorem laterLineStarts_ended (offset : Nat) {line : EndedLine} {rest : List Char}
    (separate : line.ending = .carriage → rest.head? ≠ some '\n') :
    laterLineStarts offset (line.written ++ rest) =
      (offset + line.written.length) :: laterLineStarts (offset + line.written.length) rest := by
  rw [EndedLine.written, List.append_assoc, laterLineStarts_line, laterLineStarts_break _ separate,
    List.length_append, Nat.add_assoc]

/-- A line does not start with a line feed. -/
theorem Line.head?_ne_feed (line : Line) : line.text.head? ≠ some '\n' := by
  intro found
  exact (line.unbroken '\n' (List.mem_of_head? found)).2 rfl

/-- The text behind a carriage return does not start with a line feed, where no breaks merge. -/
theorem LinedText.head?_ne_feed {line : EndedLine} {rest : List EndedLine} (last : Line)
    (apart : ∀ next ∈ rest.head?, ¬line.Merges next) (carriage : line.ending = .carriage) :
    (writtenLines rest ++ last.text).head? ≠ some '\n' := by
  cases rest with
  | nil => exact last.head?_ne_feed
  | cons next others =>
    have merged := apart next (by simp)
    have visible := next.head?_ne_feed
    -- What comes next is the first character of the next line, if it has one.
    cases text : next.text with
    | cons c tail => simpa [writtenLines, EndedLine.written, text] using visible
    | nil =>
      -- The line is empty, so what comes next is its break.
      have other : next.ending ≠ .feed := fun feed => merged ⟨carriage, text, feed⟩
      cases ending : next.ending with
      | feed => exact absurd ending other
      | pair => simp [writtenLines, EndedLine.written, text, ending, LineBreak.text]
      | carriage => simp [writtenLines, EndedLine.written, text, ending, LineBreak.text]

/-- The lines of a text start where they are written. -/
theorem lineStarts_lined (lined : LinedText) :
    (TextSnapshot.ofText (String.ofList lined.text)).lineStarts.toList =
      (List.range (lined.ended.length + 1)).map lined.start := by
  obtain ⟨ended, last, apart⟩ := lined
  -- The scan moves on by a line at a time, so the offset stays quantified over.
  have general : ∀ offset, offset :: laterLineStarts offset (writtenLines ended ++ last.text) =
      (List.range (ended.length + 1)).map fun i =>
        offset + (writtenLines (ended.take i)).length := by
    induction ended with
    | nil =>
      intro offset
      have none := laterLineStarts_line offset last []
      simpa [writtenLines, laterLineStarts] using none
    | cons line rest ih =>
      intro offset
      -- The first line is followed by another one, or it is the only one that is ended.
      have unmerged : (∀ next ∈ rest.head?, ¬line.Merges next) ∧
          ∀ pair ∈ rest.zip rest.tail, ¬pair.1.Merges pair.2 := by
        cases rest with
        | nil => simp
        | cons next others => simpa using apart
      have tail := ih unmerged.2
      have step := laterLineStarts_ended offset (LinedText.head?_ne_feed last unmerged.1)
      have shape : writtenLines (line :: rest) ++ last.text =
          line.written ++ (writtenLines rest ++ last.text) := by
        simp [writtenLines]
      -- The starts of the later lines are counted from the end of the first one.
      rw [shape, step, tail, List.length_cons, List.range_succ_eq_map (n := rest.length + 1)]
      simp [writtenLines, Function.comp_def, Nat.add_assoc]
  have scanned := general 0
  simp only [Nat.zero_add] at scanned
  rw [TextSnapshot.ofText, String.toList_ofList]
  exact scanned

/-! Positions in lines -/

/-- An offset lies on a line that starts in front of it or at it, if the next one does not. -/
theorem positionAt_of_lineStart {text : String} {offset line start : Nat}
    (inside : offset ≤ text.length)
    (begun : (TextSnapshot.ofText text).lineStarts[line]? = some start) (reached : start ≤ offset)
    (before : ∀ next, (TextSnapshot.ofText text).lineStarts[line + 1]? = some next →
      offset < next) :
    (TextSnapshot.ofText text).positionAt offset = .ok ⟨line, offset - start⟩ := by
  have length : (TextSnapshot.ofText text).length = text.length := String.length_toList
  have found := (ordered_ofText text).lineAt_eq begun reached before
  exact TextSnapshot.positionAt_of_lineAt (by omega) found begun

/-- No line starts behind the end of the text. -/
theorem LinedText.start_le (lined : LinedText) (line : Nat) :
    lined.start line ≤ lined.text.length := by
  have whole : writtenLines lined.ended =
      writtenLines (lined.ended.take line) ++ writtenLines (lined.ended.drop line) := by
    rw [writtenLines, writtenLines, writtenLines, ← List.flatMap_append, List.take_append_drop]
  rw [LinedText.start, LinedText.text, whole]
  simp only [List.length_append]
  omega

/-- A line starts right behind the break that ends the line in front of it. -/
theorem LinedText.start_succ {lined : LinedText} {i : Nat} {line : EndedLine}
    (ended : lined.ended[i]? = some line) :
    lined.start (i + 1) = lined.start i + line.written.length := by
  simp [LinedText.start, writtenLines, List.take_add_one, ended]

/-- The last line goes to the end of the text. -/
theorem LinedText.length_text (lined : LinedText) :
    lined.text.length = lined.start lined.ended.length + lined.last.text.length := by
  simp [LinedText.text, LinedText.start]

/-- The start of a line is found by its number. -/
theorem lineStarts_lined_getElem? (lined : LinedText) (i : Nat) :
    (TextSnapshot.ofText (String.ofList lined.text)).lineStarts[i]? =
      if i < lined.ended.length + 1 then some (lined.start i) else none := by
  rw [← Array.getElem?_toList, lineStarts_lined, List.getElem?_map]
  split
  · rename_i valid
    simp [List.getElem?_range valid]
  · rename_i beyond
    simp [List.getElem?_eq_none (l := List.range (lined.ended.length + 1)) (by simpa using beyond)]

/-- Every character of an ended line and of its break is on that line. -/
theorem positionAt_ended {lined : LinedText} {i j : Nat} {line : EndedLine}
    (ended : lined.ended[i]? = some line) (within : j < line.written.length) :
    (TextSnapshot.ofText (String.ofList lined.text)).positionAt (lined.start i + j) =
      .ok ⟨i, j⟩ := by
  obtain ⟨valid, _⟩ := List.getElem?_eq_some_iff.mp ended
  have next := LinedText.start_succ ended
  -- The line does not go on behind the start of the next one, which is in the text.
  have inside : lined.start i + j ≤ (String.ofList lined.text).length := by
    have := lined.start_le (i + 1)
    rw [String.length_ofList]
    omega
  have begun := lineStarts_lined_getElem? lined i
  rw [if_pos (by omega)] at begun
  -- The next line starts behind the break.
  have before : ∀ start,
      (TextSnapshot.ofText (String.ofList lined.text)).lineStarts[i + 1]? = some start →
        lined.start i + j < start := by
    intro start found
    rw [lineStarts_lined_getElem?, if_pos (by omega), Option.some.injEq] at found
    omega
  have position := positionAt_of_lineStart inside begun (Nat.le_add_right _ _) before
  rwa [Nat.add_sub_cancel_left] at position

/-- Every character of the last line is on that line, and so is the end of the text. -/
theorem positionAt_last {lined : LinedText} {j : Nat} (within : j ≤ lined.last.text.length) :
    (TextSnapshot.ofText (String.ofList lined.text)).positionAt
      (lined.start lined.ended.length + j) = .ok ⟨lined.ended.length, j⟩ := by
  have inside : lined.start lined.ended.length + j ≤ (String.ofList lined.text).length := by
    have := lined.length_text
    rw [String.length_ofList]
    omega
  have begun := lineStarts_lined_getElem? lined lined.ended.length
  rw [if_pos (by omega)] at begun
  -- There is no next line.
  have before : ∀ start,
      (TextSnapshot.ofText (String.ofList lined.text)).lineStarts[lined.ended.length + 1]? =
        some start → lined.start lined.ended.length + j < start := by
    intro start found
    rw [lineStarts_lined_getElem?, if_neg (by omega)] at found
    simp at found
  have position := positionAt_of_lineStart inside begun (Nat.le_add_right _ _) before
  rwa [Nat.add_sub_cancel_left] at position

/-- A position in a line is counted from its start, whatever the breaks of the text: each character
of a line, and the end of it, are on that line as far from its start as they are written, and so is
the line feed of a break of two characters. -/
theorem positionAt_lined (lined : LinedText) :
    let snapshot := TextSnapshot.ofText (String.ofList lined.text)
    snapshot.lineCount = lined.ended.length + 1 ∧
      ∀ i line, lined.lines[i]? = some line →
        (∀ j ≤ line.length, snapshot.positionAt (lined.start i + j) = .ok ⟨i, j⟩) ∧
          ∀ ended, lined.ended[i]? = some ended → ended.ending = .pair →
            snapshot.positionAt (lined.start i + line.length + 1) = .ok ⟨i, line.length + 1⟩ := by
  refine ⟨?_, fun i line found => ?_⟩
  · have count := congrArg List.length (lineStarts_lined lined)
    simpa [TextSnapshot.lineCount] using count
  · rw [LinedText.lines, List.getElem?_append, List.length_map] at found
    split at found
    · -- The line has a break behind it, of one character or two.
      rw [List.getElem?_map] at found
      obtain ⟨ended, member, rfl⟩ := Option.map_eq_some_iff.mp found
      have broken : 0 < ended.ending.text.length := by cases ended.ending <;> simp [LineBreak.text]
      have written : ended.written.length = ended.text.length + ended.ending.text.length := by
        rw [EndedLine.written, List.length_append]
      refine ⟨fun j within => positionAt_ended member (by omega), fun same again pair => ?_⟩
      rw [member, Option.some.injEq] at again
      subst again
      have two : ended.ending.text.length = 2 := by simp [pair, LineBreak.text]
      rw [Nat.add_assoc]
      exact positionAt_ended member (by omega)
    · -- The last line has none.
      rename_i beyond
      obtain rfl : i = lined.ended.length := by
        have := (List.getElem?_eq_some_iff.mp found).1
        simp only [List.length_singleton] at this
        omega
      have same : lined.last.text = line := by simpa using found
      subst same
      refine ⟨fun j within => positionAt_last within, fun ended member => ?_⟩
      simp at member

/-- Breaks of all kinds, an empty line between two of them, and a break at the end. -/
theorem positionAt_lined_mixed :
    let snapshot := TextSnapshot.ofText "ab\r\n\r\r\nc\n"
    snapshot.lineCount = 5 ∧ snapshot.positionAt 3 = .ok ⟨0, 3⟩ ∧
      snapshot.positionAt 5 = .ok ⟨2, 0⟩ ∧ snapshot.positionAt 9 = .ok ⟨4, 0⟩ := by
  let lined : LinedText :=
    { ended :=
        [⟨⟨['a', 'b'], by simp⟩, .pair⟩, ⟨⟨[], by simp⟩, .carriage⟩, ⟨⟨[], by simp⟩, .pair⟩,
          ⟨⟨['c'], by simp⟩, .feed⟩]
      last := ⟨[], by simp⟩
      apart := by decide }
  obtain ⟨count, positions⟩ := positionAt_lined lined
  exact ⟨count, (positions 0 _ rfl).2 _ rfl rfl, (positions 2 _ rfl).1 0 (by decide),
    (positions 4 _ rfl).1 0 (by decide)⟩

end BreakpointGlyph
