import BreakpointGlyph.Proofs.Tooltip.Template
import Mathlib.Algebra.Group.Nat.Even
import Mathlib.Logic.ExistsUnique

/-! Any template, well formed or not: what becomes of a placeholder that has no argument, and how
arguments are put in. -/

namespace BreakpointGlyph

/-! A placeholder without an argument -/

/-- One more closing brace at the start of a text makes its run longer by one. -/
theorem closingRun_cons_close (text : List Char) :
    closingRun ('}' :: text) = closingRun text + 1 := by
  simp [closingRun]

/-- A text that starts with anything else has no run of closing braces. -/
theorem closingRun_eq_zero {text : List Char} (unpaired : text.head? ≠ some '}') :
    closingRun text = 0 := by
  cases text with
  | nil => rfl
  | cons c rest =>
    have other : c ≠ '}' := by simpa using unpaired
    simp [closingRun, other]

/-- A closing brace is a piece of its own in front of an even run of them, and otherwise makes no
difference: the braces pair up from the first one on. -/
theorem labelPieces_close_run (count : Nat) (text : List Char) :
    labelPieces count ('}' :: text) =
      (if Even (closingRun text) then [.literal '}'] else []) ++ labelPieces count text := by
  -- Each closing brace that is passed turns the parity of what is left of the run.
  induction text with
  | nil => rw [labelPieces_close (by simp)]; simp [closingRun]
  | cons c rest ih =>
    by_cases closes : c = '}'
    · -- The first two are a pair, and the induction tells about the second one on its own.
      subst closes
      rw [labelPieces_closePair, closingRun_cons_close, ih]
      by_cases paired : Even (closingRun rest) <;> simp [Nat.even_add_one, paired]
    · have unpaired : (c :: rest).head? ≠ some '}' := by simpa using closes
      simp [labelPieces_close unpaired, closingRun_eq_zero unpaired]

/-- A placeholder without an argument is put in as it stands in front of an even run of closing
braces. In front of an odd one its own closing brace pairs with the first of them. -/
theorem fillTemplate_unnamed {arguments : List String} {index : Nat}
    (missing : arguments.length ≤ index) (tail : String) :
    fillTemplate (String.ofList (placeholderText index) ++ tail) arguments =
      String.ofList (if Even (closingRun tail.toList) then placeholderText index
        else '{' :: Nat.toDigits 10 index) ++ fillTemplate tail arguments := by
  -- An index past the arguments is never read, whether a word can hold it or not.
  have unnamed : ¬(index < arguments.length ∧ index < UInt64.size) := by omega
  apply String.toList_inj.mp
  simp only [fillTemplate_eq, String.toList_append, String.toList_ofList]
  rw [labelPieces_placeholderText, if_neg unnamed, labelPieces_close_run, List.flatMap_append,
    List.flatMap_append, fill_literals]
  -- The last piece in front of the tail is the closing brace, if it has not found a partner.
  split <;> simp [placeholderText, LabelPiece.fill]

/-- A placeholder without an argument stays as it is, and what follows it is filled as if it stood
alone, exactly if an even number of closing braces follows. In front of an odd number of them it
loses its own closing brace, and the rest is filled all the same. -/
theorem fillTemplate_missing_argument {arguments : List String} {index : Nat}
    (missing : arguments.length ≤ index) (tail : String) :
    fillTemplate (String.ofList (placeholderText index) ++ tail) arguments =
        String.ofList (if Even (closingRun tail.toList) then placeholderText index
          else '{' :: Nat.toDigits 10 index) ++ fillTemplate tail arguments ∧
      (fillTemplate (String.ofList (placeholderText index) ++ tail) arguments =
          String.ofList (placeholderText index) ++ fillTemplate tail arguments ↔
        Even (closingRun tail.toList)) := by
  have written := fillTemplate_unnamed missing tail
  refine ⟨written, ?_⟩
  rw [written]
  by_cases paired : Even (closingRun tail.toList)
  · simp [paired]
  · -- One side has a closing brace more than the other.
    simp only [paired, if_false, iff_false]
    intro same
    have lengths := congrArg (fun text => text.toList.length) same
    simp [placeholderText] at lengths

/-- In front of a pair of closing braces, a placeholder without an argument stays whole. -/
theorem fillTemplate_missing_argument_paired :
    ["x"].length ≤ 7 ∧
      fillTemplate "\x7b7\x7d\x7d\x7d\x7b0\x7d" ["x"] = "\x7b7\x7d\x7dx" := by
  have missing : ["x"].length ≤ 7 := by decide
  obtain ⟨filled, _⟩ := fillTemplate_missing_argument missing "\x7d\x7d\x7b0\x7d"
  have tail : fillTemplate "\x7d\x7d\x7b0\x7d" ["x"] = "\x7dx" := by decide +kernel
  rw [tail] at filled
  exact ⟨missing, filled.trans (by decide +kernel)⟩

/-- The closing brace of a placeholder without an argument is lost in front of another one. -/
theorem fillTemplate_missing_argument_lost :
    ["a"].length ≤ 1 ∧ fillTemplate "\x7b1\x7d\x7d" ["a"] = "\x7b1\x7d" ∧
      fillTemplate (String.ofList (placeholderText 1) ++ "\x7d") ["a"] ≠
        String.ofList (placeholderText 1) ++ fillTemplate "\x7d" ["a"] := by
  decide +kernel

/-! Arguments as opaque text -/

/-- Arguments of one character each. -/
def markArguments (count : Nat) (mark : Nat → Char) : List String :=
  (List.range count).map fun index => String.ofList [mark index]

/-- The character that a piece becomes where each argument is a single character. -/
def LabelPiece.marked (mark : Nat → Char) : LabelPiece → Char
  | .literal c => c
  | .argument index => mark index

/-- Pieces that are filled with arguments of one character become one character each. -/
theorem fill_markArguments {count : Nat} (mark : Nat → Char) {pieces : List LabelPiece}
    (named : ∀ index, .argument index ∈ pieces → index < count) :
    pieces.flatMap (·.fill (markArguments count mark)) = pieces.map (·.marked mark) := by
  induction pieces with
  | nil => rfl
  | cons piece rest ih =>
    -- A place within the number of arguments is filled with the character at that place.
    have single : piece.fill (markArguments count mark) = [piece.marked mark] := by
      cases piece with
      | literal c => rfl
      | argument index =>
        have small := named index (by simp)
        simp [LabelPiece.fill, LabelPiece.marked, markArguments, small]
    rw [List.flatMap_cons, single, ih fun index member => named index (by simp [member])]
    rfl

/-- A piece is told by the characters that it becomes. -/
theorem LabelPiece.eq_of_marked {piece other : LabelPiece}
    (same : ∀ mark, piece.marked mark = other.marked mark) : piece = other := by
  -- A literal is not the place of an argument, which may be any other character.
  have apart : ∀ c : Char, ∃ d : Char, c ≠ d := fun c =>
    if first : c = 'a' then ⟨'b', by simp [first]⟩ else ⟨'a', first⟩
  cases piece with
  | literal c =>
    cases other with
    | literal d => exact congrArg LabelPiece.literal (same fun _ => 'a')
    | argument index =>
      obtain ⟨d, different⟩ := apart c
      exact absurd (same fun _ => d) different
  | argument index =>
    cases other with
    | literal c =>
      obtain ⟨d, different⟩ := apart c
      exact absurd (same fun _ => d).symm different
    | argument other =>
      -- One argument alone is given a character of its own.
      have place := same fun place => if place = index then 'a' else 'b'
      by_cases equal : other = index
      · rw [equal]
      · simp [LabelPiece.marked, equal] at place

/-- Pieces with places for a number of arguments are told by what they are filled with. -/
theorem eq_of_fill_eq {count : Nat} {pieces others : List LabelPiece}
    (named : ∀ index, .argument index ∈ pieces → index < count)
    (otherNamed : ∀ index, .argument index ∈ others → index < count)
    (same : ∀ arguments : List String, arguments.length = count →
      pieces.flatMap (·.fill arguments) = others.flatMap (·.fill arguments)) :
    pieces = others := by
  -- Arguments of one character each are enough to tell them apart.
  have marked : ∀ mark, pieces.map (·.marked mark) = others.map (·.marked mark) := by
    intro mark
    rw [← fill_markArguments mark named, ← fill_markArguments mark otherNamed]
    exact same _ (by simp [markArguments])
  clear named otherNamed same
  -- The characters of the two texts stand in the same places as the pieces.
  induction pieces generalizing others with
  | nil => simpa using marked
  | cons piece rest ih =>
    cases others with
    | nil => simp at marked
    | cons other others =>
      simp only [List.map_cons, List.cons.injEq] at marked
      rw [LabelPiece.eq_of_marked fun mark => (marked mark).1, ih fun mark => (marked mark).2]

/-- A template is read in one way for every number of arguments: there are pieces, and no others, by
which it is filled with any such arguments, each put in as it is where it has its place. -/
theorem fillTemplate_existsUnique_pieces (template : String) (count : Nat) :
    ∃! pieces : List LabelPiece,
      (∀ index, .argument index ∈ pieces → index < count) ∧
        ∀ arguments : List String, arguments.length = count →
          fillTemplate template arguments =
            String.ofList (pieces.flatMap (·.fill arguments)) := by
  have named : ∀ index, .argument index ∈ labelPieces count template.toList → index < count :=
    fun _ member => lt_of_mem_labelPieces member
  refine ⟨labelPieces count template.toList, ⟨named, ?_⟩, ?_⟩
  · -- What is read of the template does not look at the arguments, only at their number.
    rintro arguments rfl
    exact fillTemplate_eq template arguments
  · rintro others ⟨otherNamed, filled⟩
    refine eq_of_fill_eq otherNamed named fun arguments length => ?_
    have same := filled arguments length
    rw [fillTemplate_eq] at same
    subst length
    exact (String.ofList_inj.mp same).symm

end BreakpointGlyph
