/-! Cutting text: at the first separator, at the last one, or at a position counted in bytes. -/

namespace BreakpointGlyph

/-- Cuts a text at its first separator, which belongs to neither part. -/
def cutAtFirst (separator : Char) (text : List Char) : Option (List Char × List Char) :=
  match text.dropWhile (· != separator) with
  | [] => none
  | _ :: after => some (text.takeWhile (· != separator), after)

/-- Cuts a text at its last separator, which belongs to neither part. -/
def cutAtLast (separator : Char) (text : List Char) : Option (List Char × List Char) :=
  (cutAtFirst separator text.reverse).map fun (after, before) => (before.reverse, after.reverse)

/-- The number of bytes of a text. -/
def byteLength : List Char → Nat
  | [] => 0
  | c :: rest => c.utf8Size + byteLength rest

/-- Cuts a text at a position counted in bytes, which must not lie inside a character. -/
def cutAtByte (position : Nat) (text : List Char) : Option (List Char × List Char) :=
  match text with
  | [] => if position = 0 then some ([], []) else none
  | c :: rest =>
    if position = 0 then some ([], c :: rest)
    else if c.utf8Size ≤ position then
      (cutAtByte (position - c.utf8Size) rest).map fun (before, after) => (c :: before, after)
    else none

/-- Nothing is lost by a cut but the separator. -/
theorem eq_of_cutAtFirst {separator : Char} {text before after : List Char}
    (cut : cutAtFirst separator text = some (before, after)) :
    text = before ++ separator :: after := by
  -- The part that is dropped starts with the first character that is a separator.
  unfold cutAtFirst at cut
  split at cut
  · simp at cut
  · rename_i head tail dropped
    simp only [Option.some.injEq, Prod.mk.injEq] at cut
    obtain ⟨rfl, rfl⟩ := cut
    have named : head = separator := by
      have nonempty : text.dropWhile (· != separator) ≠ [] := by simp [dropped]
      have first := List.head_dropWhile_not (· != separator) nonempty
      simpa [dropped] using first
    have whole := List.takeWhile_append_dropWhile (p := (· != separator)) (l := text)
    rw [dropped, named] at whole
    exact whole.symm

/-- A character in front that is no separator goes to the part before the cut. -/
theorem cutAtFirst_cons {separator c : Char} (other : c ≠ separator) (rest : List Char) :
    cutAtFirst separator (c :: rest) =
      (cutAtFirst separator rest).map fun (before, after) => (c :: before, after) := by
  have passed : (c != separator) = true := by simpa using other
  simp only [cutAtFirst, List.dropWhile_cons, List.takeWhile_cons, passed, if_true]
  cases rest.dropWhile (· != separator) <;> rfl

/-- Nothing is lost by a cut at the last separator but that separator. -/
theorem eq_of_cutAtLast {separator : Char} {text before after : List Char}
    (cut : cutAtLast separator text = some (before, after)) :
    text = before ++ separator :: after := by
  -- The last separator is the first one of the reversed text.
  obtain ⟨⟨front, back⟩, reversed, same⟩ := Option.map_eq_some_iff.mp cut
  simp only [Prod.mk.injEq] at same
  obtain ⟨rfl, rfl⟩ := same
  have whole := congrArg List.reverse (eq_of_cutAtFirst reversed)
  simpa using whole

/-- A text without the separator is passed over by a search for it. -/
theorem passed_of_not_mem {separator : Char} {text : List Char} (absent : separator ∉ text) :
    ∀ c ∈ text, (c != separator) = true := by
  intro c member
  have different : c ≠ separator := fun same => absent (same ▸ member)
  simpa using different

/-- Reading up to a separator gives back a field that has one behind it, or nothing. -/
theorem takeWhile_field {separator : Char} {field rest : List Char} (absent : separator ∉ field)
    (ended : ∀ c ∈ rest.head?, c = separator) :
    (field ++ rest).takeWhile (· != separator) = field := by
  rw [List.takeWhile_append_of_pos (passed_of_not_mem absent)]
  -- The first character behind the field stops the reading, if there is one.
  cases rest with
  | nil => simp
  | cons c rest => simp [ended c (by simp)]

/-- A field that ends at its separator, or with the text, can be told from what follows it. -/
theorem eq_of_field_eq (separator : Char) {field otherField rest otherRest : List Char}
    (absent : separator ∉ field) (otherAbsent : separator ∉ otherField)
    (ended : ∀ c ∈ rest.head?, c = separator) (otherEnded : ∀ c ∈ otherRest.head?, c = separator)
    (same : field ++ rest = otherField ++ otherRest) : field = otherField ∧ rest = otherRest := by
  -- Reading up to the separator gives the field on both sides.
  have fields : field = otherField := by
    rw [← takeWhile_field absent ended, same, takeWhile_field otherAbsent otherEnded]
  subst fields
  exact ⟨rfl, List.append_cancel_left same⟩

/-- A text is cut at a separator that has no other in front of it. -/
theorem cutAtFirst_append {separator : Char} {before : List Char} (absent : separator ∉ before)
    (after : List Char) :
    cutAtFirst separator (before ++ separator :: after) = some (before, after) := by
  -- The part in front is passed over as a whole, and the separator stops the search.
  have passed := passed_of_not_mem absent
  simp [cutAtFirst, List.dropWhile_append_of_pos passed, List.takeWhile_append_of_pos passed]

/-- A text without the separator is not cut. -/
theorem cutAtFirst_eq_none {separator : Char} {text : List Char} (absent : separator ∉ text) :
    cutAtFirst separator text = none := by
  -- A cut would show a separator in the text.
  cases cut : cutAtFirst separator text with
  | none => rfl
  | some parts => exact absurd (by simp [eq_of_cutAtFirst cut]) absent

/-- A search that passes over a whole text takes all of it. -/
theorem takeWhile_of_passed {p : Char → Bool} {text : List Char} (passed : text.dropWhile p = []) :
    text.takeWhile p = text := by
  have whole := List.takeWhile_append_dropWhile (p := p) (l := text)
  rwa [passed, List.append_nil] at whole

/-- What stands in front of the first separator, or all of a text that is not cut. -/
theorem cutAtFirst_front (separator : Char) (text : List Char) :
    ((cutAtFirst separator text).map Prod.fst).getD text = text.takeWhile (· != separator) := by
  unfold cutAtFirst
  cases passed : text.dropWhile (· != separator) with
  | nil => exact (takeWhile_of_passed passed).symm
  | cons first after => rfl

/-- What stands behind the first separator, or nothing of a text that is not cut. -/
theorem cutAtFirst_back (separator : Char) (text : List Char) :
    ((cutAtFirst separator text).map Prod.snd).getD [] =
      (text.dropWhile (· != separator)).drop 1 := by
  unfold cutAtFirst
  cases text.dropWhile (· != separator) <;> rfl

/-- Only a text without the separator is not cut. -/
theorem not_mem_of_cutAtFirst {separator : Char} {text : List Char}
    (uncut : cutAtFirst separator text = none) : separator ∉ text := by
  unfold cutAtFirst at uncut
  split at uncut
  · rename_i passed
    -- A search that ends at nothing has passed over every character.
    intro member
    have other := List.all_eq_true.mp List.all_takeWhile separator
      ((takeWhile_of_passed passed).symm ▸ member)
    simp at other
  · simp at uncut

/-- There is no separator in front of the first one. -/
theorem not_mem_before_cutAtFirst {separator : Char} {text before after : List Char}
    (cut : cutAtFirst separator text = some (before, after)) : separator ∉ before := by
  -- The part in front is what a search for the separator passes over.
  have front : before = text.takeWhile (· != separator) := by
    simpa [cut] using cutAtFirst_front separator text
  intro member
  have other := List.all_eq_true.mp List.all_takeWhile separator (front ▸ member)
  simp at other

/-- There is no separator behind the last one. -/
theorem not_mem_after_cutAtLast {separator : Char} {text before after : List Char}
    (cut : cutAtLast separator text = some (before, after)) : separator ∉ after := by
  obtain ⟨⟨front, back⟩, reversed, same⟩ := Option.map_eq_some_iff.mp cut
  simp only [Prod.mk.injEq] at same
  obtain ⟨rfl, rfl⟩ := same
  simpa using not_mem_before_cutAtFirst reversed

/-- A text is cut at a separator that has no other behind it. -/
theorem cutAtLast_append {separator : Char} {after : List Char} (absent : separator ∉ after)
    (before : List Char) :
    cutAtLast separator (before ++ separator :: after) = some (before, after) := by
  -- Reversing the text turns its back to the front.
  have unreversed : separator ∉ after.reverse := by simpa using absent
  have turned := cutAtFirst_append unreversed before.reverse
  simp [cutAtLast, turned]

/-- A text without the separator is not cut at a last one either. -/
theorem cutAtLast_eq_none {separator : Char} {text : List Char} (absent : separator ∉ text) :
    cutAtLast separator text = none := by
  -- The reversed text has no separator.
  have unreversed : separator ∉ text.reverse := by simpa using absent
  simp [cutAtLast, cutAtFirst_eq_none unreversed]

/-- Only a text without the separator is not cut at a last one. -/
theorem not_mem_of_cutAtLast {separator : Char} {text : List Char}
    (uncut : cutAtLast separator text = none) : separator ∉ text := by
  have turned := not_mem_of_cutAtFirst (Option.map_eq_none_iff.mp uncut)
  simpa using turned

/-- The text after a cut is shorter than the whole. -/
theorem length_of_cutAtFirst {separator : Char} {text before after : List Char}
    (cut : cutAtFirst separator text = some (before, after)) : after.length < text.length := by
  -- The separator itself is counted in the whole only.
  have whole := congrArg List.length (eq_of_cutAtFirst cut)
  simp only [List.length_append, List.length_cons] at whole
  omega

end BreakpointGlyph
