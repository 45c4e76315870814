import BreakpointGlyph.Location.Snapshot
import BreakpointGlyph.Location.Walk

/-! The starts of the lines of a text are ascending, so halving finds the line of an offset. -/

namespace BreakpointGlyph

/-- A line starts behind each character that ends one, however the break is spelled. -/
theorem laterLineStarts_cons (offset : Nat) (c : Char) (rest : List Char) :
    laterLineStarts offset (c :: rest) =
      if endsLine c rest then (offset + 1) :: laterLineStarts (offset + 1) rest
      else laterLineStarts (offset + 1) rest := by
  -- A break of two characters is passed in one step or in two, the second of which ends the line.
  by_cases feed : c = '\n'
  · subst feed
    simp [laterLineStarts, endsLine]
  · by_cases carriage : c = '\r'
    · subst carriage
      cases rest with
      | nil => simp [laterLineStarts, endsLine]
      | cons next others =>
        by_cases paired : next = '\n'
        · subst paired
          simp [laterLineStarts, endsLine]
        · simp [laterLineStarts, endsLine, paired]
    · simp [laterLineStarts, endsLine, feed, carriage]

/-- Every later line starts behind the place where the text starts, and not behind its end. -/
theorem laterLineStarts_bounds {offset : Nat} {text : List Char} :
    ∀ start ∈ laterLineStarts offset text, offset < start ∧ start ≤ offset + text.length := by
  -- The scan moves on by a character at a time, so the offset stays quantified over.
  induction text generalizing offset with
  | nil => simp [laterLineStarts]
  | cons c rest ih =>
    intro start member
    have later : start = offset + 1 ∨ start ∈ laterLineStarts (offset + 1) rest := by
      rw [laterLineStarts_cons] at member
      split at member
      · exact List.mem_cons.mp member
      · exact .inr member
    rw [List.length_cons]
    rcases later with rfl | member
    · omega
    · have := ih start member
      omega

/-- The starts of the lines are strictly ascending. -/
theorem lineStarts_ascending (text : List Char) (offset : Nat) :
    (offset :: laterLineStarts offset text).Pairwise (· < ·) := by
  induction text generalizing offset with
  | nil => simp [laterLineStarts]
  | cons c rest ih =>
    refine List.pairwise_cons.mpr ⟨fun start member => (laterLineStarts_bounds start member).1, ?_⟩
    -- What follows is ascending behind the next offset, whether a line starts there or not.
    rw [laterLineStarts_cons]
    split
    · exact ih (offset + 1)
    · exact (List.pairwise_cons.mp (ih (offset + 1))).2

/-- What is known of a search by halving: the numbers before `low` are within the bound, and those
from `high` on are above it. -/
structure SearchSpan (numbers : Array Nat) (bound low high : Nat) : Prop where
  within : ∀ i, (inside : i < numbers.size) → i < low → numbers[i] ≤ bound
  above : ∀ i, (inside : i < numbers.size) → high ≤ i → bound < numbers[i]

/-- The search ends at the place where ascending numbers first exceed the bound. -/
theorem firstAbove_span {numbers : Array Nat} (bound : Nat) {low high : Nat}
    (ascending : numbers.toList.Pairwise (· < ·)) (inside : high ≤ numbers.size)
    (ordered : low ≤ high) (span : SearchSpan numbers bound low high) :
    SearchSpan numbers bound (firstAbove numbers bound low high inside)
        (firstAbove numbers bound low high inside) ∧
      firstAbove numbers bound low high inside ≤ numbers.size := by
  have sorted : ∀ i j, (early : i < j) → (late : j < numbers.size) → numbers[i] < numbers[j] :=
    fun i j early late => List.pairwise_iff_getElem.mp ascending i j (by simp; omega) late early
  -- Each step rules out one of the halves, since the order carries its outcome over to all of it.
  fun_induction firstAbove numbers bound low high inside with
  | case1 low high inside pending middle fits ih =>
    -- The middle is within the bound, and so is everything in front of it.
    refine ih (by omega) ⟨fun i valid before => ?_, span.above⟩ sorted
    rcases Nat.lt_or_eq_of_le (Nat.le_of_lt_succ before) with earlier | rfl
    · exact Nat.le_of_lt (Nat.lt_of_lt_of_le (sorted i middle earlier (by omega)) fits)
    · exact fits
  | case2 low high inside pending middle exceeds ih =>
    -- The middle is above the bound, and so is everything behind it.
    refine ih (by omega) ⟨span.within, fun i valid behind => ?_⟩ sorted
    rcases Nat.lt_or_eq_of_le behind with later | rfl
    · exact Nat.lt_trans (by omega) (sorted middle i later valid)
    · omega
  | case3 low high inside settled =>
    -- Nothing is left between the two places.
    have met : low = high := by omega
    subst met
    exact ⟨span, inside⟩

/-- The search finds how many of some ascending numbers are within the bound. -/
theorem firstAbove_eq {numbers : Array Nat} (ascending : numbers.toList.Pairwise (· < ·))
    (bound : Nat) :
    firstAbove numbers bound 0 numbers.size (Nat.le_refl _) =
      (numbers.toList.takeWhile (· ≤ bound)).length := by
  obtain ⟨⟨within, above⟩, inside⟩ := firstAbove_span bound ascending
    (Nat.le_refl _) (Nat.zero_le _) ⟨by omega, by omega⟩
  generalize firstAbove numbers bound 0 numbers.size (Nat.le_refl _) = found at *
  -- The numbers in front of the place found are taken, and the one at it is not.
  have taken : ∀ n ∈ numbers.toList.take found, decide (n ≤ bound) = true := by
    intro n member
    obtain ⟨i, valid, rfl⟩ := List.mem_take_iff_getElem.mp member
    simp only [Array.length_toList] at valid
    simpa using within i (by omega) (by omega)
  have stopped : (numbers.toList.drop found).takeWhile (· ≤ bound) = [] := by
    cases rest : numbers.toList.drop found with
    | nil => rfl
    | cons n others =>
      have valid : found < numbers.size := by
        have lengths := congrArg List.length rest
        simp only [List.length_drop, Array.length_toList, List.length_cons] at lengths
        omega
      have same : numbers[found] = n := by
        rw [List.drop_eq_getElem_cons (by simpa using valid), List.cons.injEq] at rest
        exact rest.1
      -- The first number that is left is the one at the place found.
      have exceeds := above found valid (Nat.le_refl _)
      simp [← same, Nat.not_le.mpr exceeds]
  have whole : numbers.toList.takeWhile (· ≤ bound) = numbers.toList.take found := by
    rw [← List.take_append_drop found numbers.toList, List.takeWhile_append_of_pos taken, stopped,
      List.append_nil, List.take_append_drop]
  rw [whole, List.length_take, Array.length_toList]
  omega

end BreakpointGlyph
