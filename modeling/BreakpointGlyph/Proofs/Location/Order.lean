import BreakpointGlyph.Proofs.Location.LineStarts

/-! Offsets have positions in reading order: every offset up to the end of a text lies on a line,
further offsets lie further on, and each line is reached where it starts. -/

namespace BreakpointGlyph

/-- No position is behind itself. -/
theorem CursorPosition.ne_of_lt {position other : CursorPosition} (earlier : position < other) :
    position ≠ other := by
  rintro rfl
  -- Neither its line nor its column is less than itself.
  rcases earlier with line | ⟨_, column⟩
  · exact Nat.lt_irrefl _ line
  · exact Nat.lt_irrefl _ column

/-- The lines of a snapshot of a text start in order. -/
theorem ordered_ofText (text : String) : (TextSnapshot.ofText text).Ordered where
  ascending := lineStarts_ascending text.toList 0
  first := rfl
  inside := by
    intro start member
    have member : start ∈ 0 :: laterLineStarts 0 text.toList := by
      simpa [TextSnapshot.ofText] using member
    show start ≤ text.toList.length
    -- The first line starts at zero, and the others do not start behind the text that is scanned.
    rcases List.mem_cons.mp member with rfl | later
    · exact Nat.zero_le _
    · have := (laterLineStarts_bounds start later).2
      omega

/-- Later lines start further on. -/
theorem TextSnapshot.Ordered.start_lt {snapshot : TextSnapshot} (ordered : snapshot.Ordered)
    {line later start next : Nat} (early : line < later)
    (begun : snapshot.lineStarts[line]? = some start)
    (follows : snapshot.lineStarts[later]? = some next) : start < next := by
  obtain ⟨_, rfl⟩ := Array.getElem?_eq_some_iff.mp begun
  obtain ⟨valid, rfl⟩ := Array.getElem?_eq_some_iff.mp follows
  exact List.pairwise_iff_getElem.mp ordered.ascending line later (by simp; omega) valid early

/-- In front of a later line there is a next one, which does not start behind the later one. -/
theorem TextSnapshot.Ordered.exists_next {snapshot : TextSnapshot} (ordered : snapshot.Ordered)
    {line later start : Nat} (early : line < later)
    (begun : snapshot.lineStarts[later]? = some start) :
    ∃ next, snapshot.lineStarts[line + 1]? = some next ∧ next ≤ start := by
  -- The next line is the later one itself, or it starts in front of that.
  rcases Nat.lt_or_eq_of_le (Nat.succ_le_of_lt early) with earlier | same
  · obtain ⟨valid, _⟩ := Array.getElem?_eq_some_iff.mp begun
    have follows : snapshot.lineStarts[line + 1]? = some snapshot.lineStarts[line + 1] :=
      Array.getElem?_eq_getElem (by omega)
    exact ⟨_, follows, Nat.le_of_lt (ordered.start_lt earlier follows begun)⟩
  · rw [← same] at begun
    exact ⟨start, begun, Nat.le_refl start⟩

/-- The search passes the start of the first line at least, and it ends between the start of the
line of an offset and that of the next one. -/
theorem TextSnapshot.Ordered.exists_start {snapshot : TextSnapshot} (ordered : snapshot.Ordered)
    (offset : Nat) :
    firstAbove snapshot.lineStarts offset 0 snapshot.lineStarts.size (Nat.le_refl _) =
        snapshot.lineAt offset + 1 ∧
      ∃ start, snapshot.lineStarts[snapshot.lineAt offset]? = some start ∧ start ≤ offset ∧
        ∀ next, snapshot.lineStarts[snapshot.lineAt offset + 1]? = some next → offset < next := by
  -- What the search passes is not above the offset, and what it does not pass is.
  obtain ⟨⟨within, above⟩, bounded⟩ := firstAbove_span offset ordered.ascending
    (Nat.le_refl _) (Nat.zero_le _) ⟨by omega, by omega⟩
  rw [TextSnapshot.lineAt]
  generalize firstAbove snapshot.lineStarts offset 0 snapshot.lineStarts.size
    (Nat.le_refl _) = found at within above bounded ⊢
  -- No offset is in front of the first line, so the search cannot end there.
  obtain ⟨occupied, zero⟩ := Array.getElem?_eq_some_iff.mp ordered.first
  have passed : 0 < found := by
    rcases Nat.eq_zero_or_pos found with rfl | positive
    · have := above 0 occupied (Nat.le_refl _)
      omega
    · exact positive
  refine ⟨by omega, snapshot.lineStarts[found - 1], ?_, ?_, ?_⟩
  · exact Array.getElem?_eq_getElem (by omega)
  · exact within (found - 1) (by omega) (by omega)
  · intro next follows
    obtain ⟨valid, rfl⟩ := Array.getElem?_eq_some_iff.mp follows
    exact above _ valid (by omega)

/-- An offset lies on a line that starts in front of it or at it, if the next one does not. -/
theorem TextSnapshot.Ordered.lineAt_eq {snapshot : TextSnapshot} (ordered : snapshot.Ordered)
    {offset line start : Nat} (begun : snapshot.lineStarts[line]? = some start)
    (reached : start ≤ offset)
    (before : ∀ next, snapshot.lineStarts[line + 1]? = some next → offset < next) :
    snapshot.lineAt offset = line := by
  obtain ⟨_, found, starts, near, ends⟩ := ordered.exists_start offset
  -- Of two different lines, the earlier one would end in front of the offset.
  rcases Nat.lt_trichotomy (snapshot.lineAt offset) line with early | same | late
  · obtain ⟨next, follows, close⟩ := ordered.exists_next early begun
    have := ends next follows
    omega
  · exact same
  · obtain ⟨next, follows, close⟩ := ordered.exists_next late starts
    have := before next follows
    omega

/-- The position of an offset on a line is counted from the start of that line. -/
theorem TextSnapshot.positionAt_of_lineAt {snapshot : TextSnapshot} {offset line start : Nat}
    (inside : offset ≤ snapshot.length) (found : snapshot.lineAt offset = line)
    (begun : snapshot.lineStarts[line]? = some start) :
    snapshot.positionAt offset = .ok ⟨line, offset - start⟩ := by
  rw [TextSnapshot.positionAt, if_neg (by omega), found]
  simp [Array.getD_eq_getD_getElem?, begun]

/-- Every offset up to the end of the text lies somewhere. -/
theorem TextSnapshot.Ordered.exists_locates {snapshot : TextSnapshot} (ordered : snapshot.Ordered)
    {offset : Nat} (inside : offset ≤ snapshot.length) :
    ∃ position, snapshot.Locates offset position := by
  obtain ⟨searched, start, begun, reached, _⟩ := ordered.exists_start offset
  refine ⟨⟨snapshot.lineAt offset, offset - start⟩, ?_, searched, start, begun, ?_⟩
  · exact TextSnapshot.positionAt_of_lineAt inside rfl begun
  · show start + (offset - start) = offset
    omega

/-- A further offset lies further on. -/
theorem TextSnapshot.Ordered.locates_lt {snapshot : TextSnapshot} (ordered : snapshot.Ordered)
    {offset other : Nat} (further : offset < other) {position next : CursorPosition}
    (located : snapshot.Locates offset position) (beyond : snapshot.Locates other next) :
    position < next := by
  obtain ⟨start, begun, reached⟩ := located.counted
  obtain ⟨later, follows, counted⟩ := beyond.counted
  rcases Nat.lt_trichotomy position.line next.line with early | same | late
  · exact .inl early
  · -- On one line, both columns are counted from the same start.
    rw [same, follows, Option.some.injEq] at begun
    exact .inr ⟨same, by omega⟩
  · -- The line behind that of the further offset starts behind it, but not behind the other one.
    obtain ⟨ending, ended, close⟩ := ordered.exists_next late begun
    obtain ⟨searched, _, _, _, ends⟩ := ordered.exists_start other
    have line : snapshot.lineAt other = next.line := by
      have := beyond.searched
      omega
    have := ends ending (by rwa [line])
    omega

/-- A line starts at its first position. -/
theorem TextSnapshot.Ordered.positionAt_start {snapshot : TextSnapshot}
    (ordered : snapshot.Ordered) {line start : Nat}
    (begun : snapshot.lineStarts[line]? = some start) :
    start ≤ snapshot.length ∧ snapshot.positionAt start = .ok ⟨line, 0⟩ := by
  have inside : start ≤ snapshot.length := ordered.inside start (Array.mem_of_getElem? begun)
  -- The start of a line is on that line, as the next one starts further on.
  have found : snapshot.lineAt start = line :=
    ordered.lineAt_eq begun (Nat.le_refl start)
      fun next follows => ordered.start_lt (Nat.lt_succ_self line) begun follows
  have position := TextSnapshot.positionAt_of_lineAt inside found begun
  rw [Nat.sub_self] at position
  exact ⟨inside, position⟩

/-- The end of the text lies on the last line. -/
theorem TextSnapshot.Ordered.lineAt_length {snapshot : TextSnapshot} (ordered : snapshot.Ordered) :
    snapshot.lineAt snapshot.length + 1 = snapshot.lineCount := by
  obtain ⟨_, start, begun, _, ends⟩ := ordered.exists_start snapshot.length
  obtain ⟨valid, _⟩ := Array.getElem?_eq_some_iff.mp begun
  show snapshot.lineAt snapshot.length + 1 = snapshot.lineStarts.size
  -- A further line would have to start behind the end.
  rcases Nat.lt_or_eq_of_le (Nat.succ_le_of_lt valid) with more | last
  · have follows : snapshot.lineStarts[snapshot.lineAt snapshot.length + 1]? =
        some snapshot.lineStarts[snapshot.lineAt snapshot.length + 1] :=
      Array.getElem?_eq_getElem more
    have behind := ends _ follows
    have := ordered.inside _ (Array.mem_of_getElem? follows)
    omega
  · exact last

/-- The lines of every text start in order, from zero up to the end at most. So the search for an
offset finds a line that exists and that does not start behind the offset, and the offset is the
start of that line and the column together. Positions are in the order of their offsets, every line
is reached where it starts, and the end of the text lies on the last line. -/
theorem positionAt_reading_order (text : String) :
    let snapshot := TextSnapshot.ofText text
    snapshot.Ordered ∧
      (∀ offset ≤ snapshot.length, ∃ position, snapshot.Locates offset position) ∧
      (∀ offset other, offset < other → other ≤ snapshot.length →
        ∃ position next, snapshot.positionAt offset = .ok position ∧
          snapshot.positionAt other = .ok next ∧ position < next ∧ position ≠ next) ∧
      (∀ line < snapshot.lineCount, ∃ offset ≤ snapshot.length,
        snapshot.positionAt offset = .ok ⟨line, 0⟩) ∧
      ∃ last, snapshot.positionAt snapshot.length = .ok last ∧
        last.line + 1 = snapshot.lineCount := by
  intro snapshot
  have ordered : snapshot.Ordered := ordered_ofText text
  refine ⟨ordered, fun offset inside => ordered.exists_locates inside, ?_, ?_, ?_⟩
  · intro offset other further inside
    obtain ⟨position, located⟩ := ordered.exists_locates (by omega : offset ≤ snapshot.length)
    obtain ⟨next, beyond⟩ := ordered.exists_locates inside
    have later : position < next := ordered.locates_lt further located beyond
    exact ⟨position, next, located.answer, beyond.answer, later,
      CursorPosition.ne_of_lt later⟩
  · intro line existing
    have begun : snapshot.lineStarts[line]? = some snapshot.lineStarts[line] :=
      Array.getElem?_eq_getElem existing
    exact ⟨_, ordered.positionAt_start begun⟩
  · obtain ⟨last, located⟩ := ordered.exists_locates (Nat.le_refl snapshot.length)
    have line : last.line = snapshot.lineAt snapshot.length := by
      have := located.searched
      have := (ordered.exists_start snapshot.length).1
      omega
    exact ⟨last, located.answer, by rw [line, ordered.lineAt_length]⟩

/-- Offsets on both sides of the line feed of a break of two characters, on one line and the next,
the start of a line, and the end of the text. -/
theorem positionAt_reading_order_pair :
    let snapshot := TextSnapshot.ofText "a\r\n\rb"
    (∃ position, snapshot.Locates 2 position) ∧
      (∃ position next, snapshot.positionAt 2 = .ok position ∧ snapshot.positionAt 3 = .ok next ∧
        position < next ∧ position ≠ next) ∧
      (∃ offset ≤ snapshot.length, snapshot.positionAt offset = .ok ⟨2, 0⟩) ∧
      ∃ last, snapshot.positionAt snapshot.length = .ok last ∧
        last.line + 1 = snapshot.lineCount := by
  obtain ⟨_, located, further, reached, ended⟩ := positionAt_reading_order "a\r\n\rb"
  exact ⟨located 2 (by decide), further 2 3 (by decide) (by decide), reached 2 (by decide), ended⟩

end BreakpointGlyph
