import BreakpointGlyph.Proofs.Text.Joined
import BreakpointGlyph.Proofs.Text.Trim
import BreakpointGlyph.Signature.TypeName

/-! A list of arguments is cut at the commas that nothing encloses, and the arguments that are cut
from it are cut in the same way when they are put together again. -/

namespace BreakpointGlyph

/-! Depths and commas -/

/-- The characters that open or close a list of arguments or an array suffix. -/
def isBracket (c : Char) : Bool :=
  c == '<' || c == '>' || c == '[' || c == ']'

/-- The number of open brackets behind a text, `depth` of them being open in front of it. -/
def depthAfter (depth : Nat) (text : List Char) : Nat :=
  text.foldl bracketDepth depth

/-- Every comma of a text is enclosed, `depth` brackets being open in front of it. -/
def CommasEnclosed (depth : Nat) : List Char → Prop
  | [] => True
  | c :: rest => (c = ',' → 0 < depth) ∧ CommasEnclosed (bracketDepth depth c) rest

/-- Brackets are counted on from one text to the next. -/
@[simp] theorem depthAfter_append (depth : Nat) (front back : List Char) :
    depthAfter depth (front ++ back) = depthAfter (depthAfter depth front) back :=
  List.foldl_append

/-- Commas are enclosed in two texts side by side if they are in each. -/
@[simp] theorem commasEnclosed_append {depth : Nat} {front back : List Char} :
    CommasEnclosed depth (front ++ back) ↔
      CommasEnclosed depth front ∧ CommasEnclosed (depthAfter depth front) back := by
  induction front generalizing depth with
  | nil => simp [CommasEnclosed, depthAfter]
  | cons c rest ih => simp [CommasEnclosed, depthAfter, ih, and_assoc]

/-- A character that is no bracket leaves the number of open ones alone. -/
theorem bracketDepth_unbracketed {c : Char} (unbracketed : isBracket c = false) (depth : Nat) :
    bracketDepth depth c = depth := by
  simp only [isBracket, Bool.or_eq_false_iff, beq_eq_false_iff_ne] at unbracketed
  simp [bracketDepth, unbracketed]

/-- No bracket is white space. -/
theorem isBracket_blank {c : Char} (blank : isBlank c = true) : isBracket c = false := by
  have visible : isBlank '<' = false ∧ isBlank '>' = false ∧ isBlank '[' = false ∧
      isBlank ']' = false := by decide
  have other : c ≠ '<' ∧ c ≠ '>' ∧ c ≠ '[' ∧ c ≠ ']' := by
    refine ⟨?_, ?_, ?_, ?_⟩ <;> rintro rfl <;> simp_all
  simp [isBracket, other]

/-- In white space there are no commas, and no brackets either. -/
theorem blanks_plain {blanks : List Char} (blank : ∀ c ∈ blanks, isBlank c = true) (depth : Nat) :
    CommasEnclosed depth blanks ∧ depthAfter depth blanks = depth := by
  induction blanks with
  | nil => exact ⟨trivial, rfl⟩
  | cons c rest ih =>
    have visible : c ≠ ',' := by
      rintro rfl
      exact absurd (blank ',' (by simp)) (by decide)
    have level := bracketDepth_unbracketed (isBracket_blank (blank c (by simp))) depth
    have tail := ih fun other member => blank other (by simp [member])
    simpa [CommasEnclosed, depthAfter, visible, level] using tail

/-! Cutting -/

/-- A text whose commas are enclosed is passed over by the search for commas. -/
theorem splitAtCommas_enclosed {depth : Nat} {text : List Char}
    (enclosed : CommasEnclosed depth text) (rest : List Char) :
    splitAtCommas depth (text ++ rest) =
      (splitAtCommas (depthAfter depth text) rest).modifyHead (text ++ ·) := by
  induction text generalizing depth with
  | nil => exact (congrFun List.modifyHead_id _).symm
  | cons c others ih =>
    -- A comma in the text has a bracket open around it, so that nothing is cut there.
    obtain ⟨comma, tail⟩ := enclosed
    have unsplit : ¬(c = ',' ∧ depth = 0) := by
      rintro ⟨same, outside⟩
      have := comma same
      omega
    rw [List.cons_append, splitAtCommas, if_neg unsplit, ih tail, List.modifyHead_modifyHead]
    rfl

/-- There is a part in front of the first comma, if only an empty one. -/
theorem splitAtCommas_ne_nil (depth : Nat) (text : List Char) : splitAtCommas depth text ≠ [] := by
  induction text generalizing depth with
  | nil => simp [splitAtCommas]
  | cons c rest ih =>
    rw [splitAtCommas]
    split
    · simp
    -- Where nothing is cut the parts are those of the rest, with a longer first one.
    · simpa using ih (bracketDepth depth c)

/-- The parts are put together again by commas. -/
theorem intercalate_splitAtCommas (depth : Nat) (text : List Char) :
    [','].intercalate (splitAtCommas depth text) = text := by
  induction text generalizing depth with
  | nil => rfl
  | cons c rest ih =>
    rw [splitAtCommas]
    split
    · -- The comma is the one that is put between nothing and the parts of the rest.
      rename_i cut
      have joined := ih depth
      obtain ⟨first, others, parts⟩ := List.exists_cons_of_ne_nil (splitAtCommas_ne_nil depth rest)
      rw [parts] at joined ⊢
      rw [List.intercalate_cons_cons, joined, cut.1]
      rfl
    · -- The character is in front of the first of the parts of the rest.
      have joined := ih (bracketDepth depth c)
      obtain ⟨first, others, parts⟩ :=
        List.exists_cons_of_ne_nil (splitAtCommas_ne_nil (bracketDepth depth c) rest)
      rw [parts] at joined
      rw [parts, List.modifyHead_cons, ← joined]
      cases others <;> simp [List.intercalate_cons_cons]

/-- An argument is a stretch of the list that it stands in. -/
theorem infix_of_mem_genericArguments {list argument : List Char}
    (listed : argument ∈ genericArguments list) : argument <:+: list := by
  -- It is what trimming leaves of a part, and the parts make up the list.
  obtain ⟨part, inside, rfl⟩ := List.mem_map.mp (List.mem_filter.mp listed).1
  have among := infix_intercalate inside [',']
  rw [intercalate_splitAtCommas] at among
  exact (infix_trim part).trans among

/-- Parts that stay apart with commas between them: the commas of each are enclosed, and each but
the last closes what it opens. -/
inductive Separable : List (List Char) → Prop where
  | none : Separable []
  | last {part : List Char} (enclosed : CommasEnclosed 0 part) : Separable [part]
  | more {part : List Char} {rest : List (List Char)} (enclosed : CommasEnclosed 0 part)
      (closed : depthAfter 0 part = 0) : Separable rest → Separable (part :: rest)

/-- A part in front of separable ones is separable from them, if it closes what it opens or is the
only one. -/
theorem Separable.cons {part : List Char} {rest : List (List Char)}
    (enclosed : CommasEnclosed 0 part) (closed : rest ≠ [] → depthAfter 0 part = 0)
    (separable : Separable rest) : Separable (part :: rest) := by
  cases rest with
  | nil => exact .last enclosed
  | cons second others => exact .more enclosed (closed (by simp)) separable

/-- Parts that close what they open are separable if their commas are enclosed. -/
theorem Separable.of_closed {parts : List (List Char)}
    (closed : ∀ part ∈ parts, CommasEnclosed 0 part ∧ depthAfter 0 part = 0) : Separable parts := by
  induction parts with
  | nil => exact .none
  | cons first rest ih =>
    obtain ⟨enclosed, level⟩ := closed first (by simp)
    exact .more enclosed level (ih fun part member => closed part (by simp [member]))

/-- The commas of each of some parts that are separable are enclosed. -/
theorem Separable.enclosed {parts : List (List Char)} (separable : Separable parts)
    {part : List Char} (member : part ∈ parts) : CommasEnclosed 0 part := by
  induction separable with
  | none => simp at member
  | last enclosed => exact List.mem_singleton.mp member ▸ enclosed
  | more enclosed _ _ ih =>
    rcases List.mem_cons.mp member with rfl | later
    · exact enclosed
    · exact ih later

/-- The parts between commas are separable, and the first one goes on from the open brackets. -/
theorem separable_splitAtCommas_cons (depth : Nat) (text : List Char) :
    ∃ first rest, splitAtCommas depth text = first :: rest ∧ CommasEnclosed depth first ∧
      (rest ≠ [] → depthAfter depth first = 0) ∧ Separable rest := by
  induction text generalizing depth with
  | nil => exact ⟨[], [], rfl, trivial, by simp, .none⟩
  | cons c others ih =>
    rw [splitAtCommas]
    split
    · -- The text is cut in front of the rest, where no bracket is open.
      rename_i cut
      obtain ⟨first, rest, parts, enclosed, closed, separable⟩ := ih depth
      rw [cut.2] at enclosed closed parts ⊢
      exact ⟨[], first :: rest, by rw [parts], trivial, fun _ => rfl,
        separable.cons enclosed closed⟩
    · -- The character belongs to the first part, as a comma only where a bracket is open.
      rename_i uncut
      obtain ⟨first, rest, parts, enclosed, closed, separable⟩ := ih (bracketDepth depth c)
      have comma : c = ',' → 0 < depth := by
        intro same
        have : depth ≠ 0 := fun outside => uncut ⟨same, outside⟩
        omega
      exact ⟨c :: first, rest, by rw [parts, List.modifyHead_cons], ⟨comma, enclosed⟩, closed,
        separable⟩

/-- The parts of a list are separable. -/
theorem separable_splitAtCommas (text : List Char) : Separable (splitAtCommas 0 text) := by
  obtain ⟨first, rest, parts, enclosed, closed, separable⟩ := separable_splitAtCommas_cons 0 text
  rw [parts]
  exact separable.cons enclosed closed

/-- Parts that are separable come apart again, with the white space that is put between them. -/
theorem splitAtCommas_separable {blanks : List Char} (blank : ∀ c ∈ blanks, isBlank c = true)
    {first : List Char} {rest : List (List Char)} (separable : Separable (first :: rest)) :
    splitAtCommas 0 ((',' :: blanks).intercalate (first :: rest)) =
      first :: rest.map (blanks ++ ·) := by
  induction rest generalizing first with
  | nil =>
    have enclosed : CommasEnclosed 0 first := by
      cases separable <;> assumption
    have passed := splitAtCommas_enclosed enclosed []
    simpa [splitAtCommas] using passed
  | cons second others ih =>
    cases separable with
    | more enclosed closed later =>
      have space := blanks_plain blank 0
      -- Nothing is open at the comma behind the first part, nor behind the white space after it.
      rw [List.intercalate_cons_cons, List.append_assoc, splitAtCommas_enclosed enclosed, closed,
        List.cons_append, splitAtCommas, if_pos ⟨rfl, rfl⟩, splitAtCommas_enclosed space.1,
        space.2, ih later]
      simp

/-- Some of the parts that are separable are separable. -/
theorem Separable.filter {parts : List (List Char)} (separable : Separable parts)
    (kept : List Char → Bool) : Separable (parts.filter kept) := by
  -- No part needs another one that may be dropped: each closes what it opens on its own.
  induction separable with
  | none => exact .none
  | @last part enclosed =>
    cases keep : kept part with
    | false => simpa [keep] using Separable.none
    | true => simpa [keep] using Separable.last enclosed
  | @more part rest enclosed closed _ ih =>
    cases keep : kept part with
    | false => simpa [keep] using ih
    | true => simpa [keep] using Separable.more enclosed closed ih

/-- Separable parts are what splitting their comma-separated list gives. -/
theorem splitAtCommas_intercalate {parts : List (List Char)} (nonempty : parts ≠ [])
    (separable : Separable parts) : splitAtCommas 0 ([','].intercalate parts) = parts := by
  -- No white space is put between them.
  obtain ⟨first, rest, rfl⟩ := List.exists_cons_of_ne_nil nonempty
  have blank : ∀ c ∈ ([] : List Char), isBlank c = true := by simp
  simpa using splitAtCommas_separable blank separable

/-- Arguments that are separable, visible at their ends and not empty are the arguments of the list
that they make up with commas, whatever white space stands behind each of these. -/
theorem genericArguments_separable {blanks : List Char} (blank : ∀ c ∈ blanks, isBlank c = true)
    {parts : List (List Char)} (separable : Separable parts)
    (visible : ∀ part ∈ parts, part ≠ [] ∧ VisibleEnds part) :
    genericArguments ((',' :: blanks).intercalate parts) = parts := by
  cases parts with
  | nil => rfl
  | cons first rest =>
    -- The white space in front of each argument but the first goes when it is trimmed.
    have trimmed : ∀ part ∈ rest, trim (blanks ++ part) = part := fun part member =>
      (trim_append_left blank part).trans (trim_visible (visible part (by simp [member])).2)
    have same : (first :: rest.map (blanks ++ ·)).map trim = first :: rest := by
      rw [List.map_cons, List.map_map, trim_visible (visible first (by simp)).2]
      congr 1
      exact (List.map_congr_left trimmed).trans (List.map_id rest)
    rw [genericArguments, splitAtCommas_separable blank separable, same, List.filter_eq_self]
    intro part member
    simpa using (visible part member).1

end BreakpointGlyph
