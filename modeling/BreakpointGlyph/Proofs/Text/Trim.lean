import BreakpointGlyph.Text.Blank

/-! Trimming removes the white space around a text and nothing else. -/

namespace BreakpointGlyph

/-- A text that neither starts nor ends with white space; the empty text has no ends. -/
structure VisibleEnds (text : List Char) : Prop where
  first : ∀ c ∈ text.head?, isBlank c = false
  last : ∀ c ∈ text.getLast?, isBlank c = false

/-- A text without white space has no blank character in it. -/
theorem blank_not_mem {text : List Char} (visible : ∀ c ∈ text, isBlank c = false) {c : Char}
    (blank : isBlank c = true) : c ∉ text := by
  intro member
  simp [visible c member] at blank

/-- The ends of a text remain visible whatever stands between them. -/
theorem VisibleEnds.between {front inside back : List Char}
    (ends : VisibleEnds (front ++ inside ++ back)) (opened : front ≠ []) (closed : back ≠ [])
    (other : List Char) : VisibleEnds (front ++ other ++ back) := by
  obtain ⟨first, last⟩ := ends
  constructor
  · -- The first character stands in the front.
    obtain ⟨start, more, rfl⟩ := List.exists_cons_of_ne_nil opened
    simpa using first
  · -- The last character stands in the back.
    have ended := List.getLast?_eq_some_getLast closed
    rw [List.getLast?_append, ended] at last ⊢
    exact last

/-- The ends of a text are visible if all of its front is, and the last character behind it. -/
theorem visibleEnds_append {front back : List Char} (opened : front ≠ [])
    (visible : ∀ c ∈ front, isBlank c = false) (last : ∀ c ∈ back.getLast?, isBlank c = false) :
    VisibleEnds (front ++ back) := by
  constructor
  · intro c found
    obtain ⟨start, more, rfl⟩ := List.exists_cons_of_ne_nil opened
    have same : start = c := by simpa using found
    exact visible c (by simp [same])
  · -- If there is nothing behind the front, its own last character is the last one.
    intro c found
    simp only [List.getLast?_append, Option.mem_def, Option.or_eq_some_iff] at found
    rcases found with behind | ⟨_, inFront⟩
    · exact last c behind
    · exact visible c (List.mem_of_getLast? inFront)

/-- Nothing is dropped from the front of a text that starts with a visible character. -/
theorem dropBlanks_visible {text : List Char} (first : ∀ c ∈ text.head?, isBlank c = false) :
    text.dropWhile isBlank = text := by
  -- Dropping stops at the very first character.
  cases text with
  | nil => rfl
  | cons c rest => simp [first c (by simp)]

/-- A text with visible ends stays as it is. -/
theorem trim_visible {text : List Char} (ends : VisibleEnds text) : trim text = text := by
  -- The second pass meets the last character first.
  have back : ∀ c ∈ text.reverse.head?, isBlank c = false := by
    simpa only [List.head?_reverse] using ends.last
  rw [trim, dropBlanks_visible ends.first, dropBlanks_visible back, List.reverse_reverse]

/-- White space in front of a text makes no difference. -/
theorem trim_append_left {before : List Char} (blank : ∀ c ∈ before, isBlank c = true)
    (text : List Char) : trim (before ++ text) = trim text := by
  -- The first pass runs through all of it.
  rw [trim, trim, List.dropWhile_append_of_pos blank]

/-- White space behind a text makes no difference. -/
theorem trim_append_right {after : List Char} (blank : ∀ c ∈ after, isBlank c = true)
    (text : List Char) : trim (text ++ after) = trim text := by
  -- Nothing else stands behind the white space that could stop a pass through it.
  have passed : after.dropWhile isBlank = [] := by
    rw [← List.append_nil after, List.dropWhile_append_of_pos blank, List.dropWhile_nil]
  rw [trim, trim, List.dropWhile_append]
  -- Either the text is blank as a whole, or the first pass stops inside of it.
  split
  · rename_i empty
    rw [passed, List.isEmpty_iff.mp empty]
  · have behind : ∀ c ∈ after.reverse, isBlank c = true := by simpa using blank
    rw [List.reverse_append, List.dropWhile_append_of_pos behind]

/-- Dropping white space stops in front of a visible character. -/
theorem dropBlanks_append {c : Char} (visible : isBlank c = false) (front back : List Char) :
    (front ++ c :: back).dropWhile isBlank = front.dropWhile isBlank ++ c :: back := by
  -- If all of the front is blank, the visible character is the one that stops it.
  rw [List.dropWhile_append, List.dropWhile_cons_of_neg (by simp [visible])]
  split
  · rename_i empty
    rw [List.isEmpty_iff.mp empty, List.nil_append]
  · rfl

/-- Trimming takes away from both sides of a visible character, and leaves that character. -/
theorem trim_around {c : Char} (visible : isBlank c = false) (front back : List Char) :
    trim (front ++ c :: back) =
      front.dropWhile isBlank ++ c :: (back.reverse.dropWhile isBlank).reverse := by
  rw [trim, dropBlanks_append visible, List.reverse_append, List.reverse_cons, List.append_assoc,
    List.singleton_append, dropBlanks_append visible]
  simp

/-- Trimming takes white space away at both ends. -/
theorem exists_trim (text : List Char) :
    ∃ before after, text = before ++ trim text ++ after ∧ (∀ c ∈ before, isBlank c = true) ∧
      ∀ c ∈ after, isBlank c = true := by
  -- The second pass takes away the blanks at the front of the reversed text.
  let turned := (text.dropWhile isBlank).reverse
  refine ⟨text.takeWhile isBlank, (turned.takeWhile isBlank).reverse, ?_, ?_, ?_⟩
  · have back := congrArg List.reverse
      (List.takeWhile_append_dropWhile (p := isBlank) (l := turned))
    rw [List.reverse_append, List.reverse_reverse] at back
    rw [trim, List.append_assoc, back, List.takeWhile_append_dropWhile]
  · exact List.all_eq_true.mp List.all_takeWhile
  · intro c member
    exact List.all_eq_true.mp List.all_takeWhile c (List.mem_reverse.mp member)

/-- What trimming leaves is a stretch of the text. -/
theorem infix_trim (text : List Char) : trim text <:+: text := by
  obtain ⟨before, after, whole, -, -⟩ := exists_trim text
  exact ⟨before, after, whole.symm⟩

/-- Trimming adds no character. -/
theorem mem_of_mem_trim {c : Char} {text : List Char} (member : c ∈ trim text) : c ∈ text :=
  (infix_trim text).mem member

/-- Trimming leaves no white space at the ends. -/
theorem visibleEnds_trim (text : List Char) : VisibleEnds (trim text) := by
  -- What a pass leaves starts with a character that is not blank.
  have opened : ∀ whole : List Char, ∀ c ∈ (whole.dropWhile isBlank).head?, isBlank c = false := by
    intro whole c found
    have stopped := List.head?_dropWhile_not isBlank whole
    simp_all
  constructor
  · -- The second pass takes away from the back only, so the front stays if anything does.
    intro c found
    have shorter := List.dropWhile_suffix isBlank (l := (text.dropWhile isBlank).reverse)
    have kept : trim text <+: text.dropWhile isBlank := by
      simpa [trim] using List.reverse_prefix.mpr shorter
    obtain ⟨removed, whole⟩ := kept
    -- So the first character is the one that the first pass stopped at.
    refine opened text c ?_
    rw [← whole]
    cases remaining : trim text with
    | nil => simp [remaining] at found
    | cons head rest => simpa [remaining] using found
  · -- The last character is the first of the reversed text, where the second pass stopped.
    simpa only [trim, List.getLast?_reverse] using opened (text.dropWhile isBlank).reverse

/-- Trimming a second time changes nothing. -/
@[simp] theorem trim_trim (text : List Char) : trim (trim text) = trim text :=
  trim_visible (visibleEnds_trim text)

end BreakpointGlyph
