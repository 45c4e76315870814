import BreakpointGlyph.Proofs.Location.LineStarts

/-! The position of an offset is where a cursor arrives that reads all characters in front of it. -/

namespace BreakpointGlyph

/-- The starts of the later lines that a cursor has passed after some characters of a text. -/
def passedStarts (offset count : Nat) (text : List Char) : List Nat :=
  (laterLineStarts offset text).takeWhile (· ≤ offset + count)

/-- No line is passed before anything is read. -/
theorem passedStarts_zero (offset : Nat) (text : List Char) : passedStarts offset 0 text = [] := by
  -- Later lines start behind the offset, so already the first of them is out of reach.
  unfold passedStarts
  cases starts : laterLineStarts offset text with
  | nil => rfl
  | cons start later =>
    have behind := (laterLineStarts_bounds start (starts ▸ List.mem_cons_self)).1
    simp [Nat.not_le.mpr behind]

/-- Reading a character passes the start of a line if it ends one. -/
theorem passedStarts_succ (offset count : Nat) (c : Char) (rest : List Char) :
    passedStarts offset (count + 1) (c :: rest) =
      if endsLine c rest then (offset + 1) :: passedStarts (offset + 1) count rest
      else passedStarts (offset + 1) count rest := by
  -- The reach is the same, counted from either side of the character.
  have shifted : offset + (count + 1) = offset + 1 + count := by omega
  rw [passedStarts, laterLineStarts_cons, shifted]
  split
  · rw [List.takeWhile_cons_of_pos (by simp)]
    rfl
  · rfl

/-- A cursor is on the line that it has passed the start of last. -/
theorem walk_eq (line : Nat) {offset start count : Nat} {text : List Char}
    (started : start ≤ offset) (inside : count ≤ text.length) :
    CursorPosition.walk ⟨line, offset - start⟩ count text =
      ⟨line + (passedStarts offset count text).length,
        offset + count - (passedStarts offset count text).getLastD start⟩ := by
  -- Reading one character either starts a line or moves on within the line.
  induction text generalizing offset start line count with
  | nil =>
    obtain rfl : count = 0 := by simpa using inside
    simp [CursorPosition.walk, passedStarts_zero]
  | cons c rest ih =>
    cases count with
    | zero => simp [CursorPosition.walk, passedStarts_zero]
    | succ count =>
      have inside : count ≤ rest.length := by simpa using inside
      rw [CursorPosition.walk, CursorPosition.advance, passedStarts_succ]
      split
      · -- The new line starts right where the rest of the text does.
        have next := ih (line + 1) (Nat.le_refl (offset + 1)) inside
        rw [Nat.sub_self] at next
        rw [next, List.length_cons, List.getLastD_cons]
        congr 1 <;> omega
      · -- The line goes on, one character further from its start.
        have started : start ≤ offset + 1 := by omega
        have next := ih line started inside
        have further : offset + 1 - start = offset - start + 1 := by omega
        rw [further] at next
        rw [next]
        congr 1
        omega

/-- The line of an offset is the number of later lines that start at it or in front of it. -/
theorem lineAt_ofText (text : String) (offset : Nat) :
    (TextSnapshot.ofText text).lineAt offset = (passedStarts 0 offset text.toList).length := by
  have ascending : (0 :: laterLineStarts 0 text.toList).toArray.toList.Pairwise (· < ·) :=
    lineStarts_ascending text.toList 0
  have found := firstAbove_eq ascending offset
  rw [TextSnapshot.lineAt, TextSnapshot.ofText, found]
  -- The first line starts at zero and is always among those that are found.
  simp [passedStarts]

/-- The line of an offset exists, and its start is the last one passed. -/
theorem lineStart_ofText (text : String) (offset : Nat) :
    (TextSnapshot.ofText text).lineStarts[(TextSnapshot.ofText text).lineAt offset]? =
      some ((passedStarts 0 offset text.toList).getLastD 0) := by
  -- The first line and the passed ones are the front part of all lines.
  obtain ⟨later, whole⟩ : passedStarts 0 offset text.toList <+: laterLineStarts 0 text.toList :=
    List.takeWhile_prefix _
  have last := List.getLast?_eq_getElem? (l := 0 :: passedStarts 0 offset text.toList)
  rw [List.getLast?_cons, ← List.getLastD_eq_getLast?, List.length_cons,
    Nat.add_sub_cancel] at last
  rw [lineAt_ofText, TextSnapshot.ofText, ← whole, List.getElem?_toArray, ← List.cons_append,
    List.getElem?_append_left (by simp), last]

/-- The position of an offset is where reading that many characters leads, if there are as many. -/
theorem positionAt_ofText (text : String) (offset : Nat) :
    (TextSnapshot.ofText text).positionAt offset =
      if text.length < offset then .error (.offsetOutOfRange offset text.length)
      else .ok (CursorPosition.walk ⟨0, 0⟩ offset text.toList) := by
  have length : (TextSnapshot.ofText text).length = text.length := String.length_toList
  rw [TextSnapshot.positionAt, length]
  split
  · rfl
  · -- The line found is the one that the cursor is on, and its start is where the cursor began it.
    rename_i within
    have inside : offset ≤ text.toList.length := by
      rw [String.length_toList]
      omega
    have read := walk_eq 0 (Nat.le_refl 0) inside
    rw [Nat.sub_zero] at read
    dsimp only
    rw [read, Array.getD_eq_getD_getElem?, lineStart_ofText, lineAt_ofText, Option.getD_some,
      Nat.zero_add, Nat.zero_add]

end BreakpointGlyph
