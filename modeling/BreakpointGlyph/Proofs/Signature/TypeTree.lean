import BreakpointGlyph.Proofs.Signature.Brackets
import BreakpointGlyph.Proofs.Signature.NameParts
import BreakpointGlyph.Proofs.Text.Trim
import BreakpointGlyph.Signature.Printer
import BreakpointGlyph.Signature.TypeTree

/-! Well-formed type names as written: nested text that is cut into the parts it was made of. -/

namespace BreakpointGlyph

/-- The characters that end an element or stand in what follows it. -/
def elementStops : List Char :=
  [',', '<', '>', '[', ']', '*', '&']

/-- A decimal digit is neither white space nor a mark. -/
theorem isDigit_plain {c : Char} (digit : c.isDigit = true) :
    c ∉ typeNameMarks ∧ isBlank c = false := by
  -- The digits lie between the marks and apart from all ranges of white space.
  have bounds : 48 ≤ c.toNat ∧ c.toNat ≤ 57 := by
    simp only [Char.isDigit, Bool.and_eq_true, decide_eq_true_eq] at digit
    exact ⟨UInt32.le_iff_toNat_le.mp digit.1, UInt32.le_iff_toNat_le.mp digit.2⟩
  constructor
  · -- Each of the marks has a number outside of these bounds.
    intro mark
    simp only [typeNameMarks, List.mem_cons, List.not_mem_nil, or_false] at mark
    rcases mark with rfl | rfl | rfl | rfl | rfl | rfl | rfl | rfl | rfl <;> simp at bounds
  · simp only [isBlank, inRanges, blankRanges, List.any_cons, List.any_nil, Bool.or_false,
      Bool.or_eq_false_iff, Bool.and_eq_false_iff, decide_eq_false_iff_not]
    omega

/-- What does not stop an element is no bracket and no comma, and does not end it. -/
theorem unstopped {c : Char} (apart : c ∉ elementStops) :
    isBracket c = false ∧ c ≠ ',' ∧ endsElement c = false := by
  simp only [elementStops, List.mem_cons, List.not_mem_nil, or_false, not_or] at apart
  simp [isBracket, endsElement, apart]

/-- An arity is written with a backquote and digits. -/
theorem ElementName.mem_arityText {element : ElementName} {c : Char}
    (member : c ∈ element.arityText) : c = '\x60' ∨ c.isDigit = true := by
  -- An element without an arity has no such text.
  unfold ElementName.arityText at member
  split at member
  · simp at member
  · rename_i arity _
    rcases List.mem_cons.mp member with backquote | member
    · exact .inl backquote
    · exact .inr (arity.decimal c member)

/-- No character of an element name is white space or stops the element. -/
theorem ElementName.text_plain (element : ElementName) :
    ∀ c ∈ element.text, c ∉ elementStops ∧ isBlank c = false := by
  -- What stops an element is among the marks, apart from the dot and the backquote.
  have weaken : ∀ c, c ∉ typeNameMarks ∧ isBlank c = false →
      c ∉ elementStops ∧ isBlank c = false := by
    rintro c ⟨unmarked, visible⟩
    refine ⟨fun stop => unmarked ?_, visible⟩
    simp only [elementStops, typeNameMarks, List.mem_cons, List.not_mem_nil, or_false] at stop ⊢
    grind
  have dot : '.' ∉ elementStops ∧ isBlank '.' = false := by decide
  have backquote : '\x60' ∉ elementStops ∧ isBlank '\x60' = false := by decide
  -- A character belongs to a namespace, to a dot, to the identifier or to the arity.
  intro c member
  simp only [ElementName.text, ElementName.qualifierText, List.mem_append, List.mem_flatMap,
    List.mem_singleton] at member
  rcases member with ⟨qualifier, _, member | rfl⟩ | member | member
  · exact weaken c (qualifier.plain c member)
  · exact dot
  · exact weaken c (element.last.plain c member)
  · rcases ElementName.mem_arityText member with rfl | digit
    · exact backquote
    · exact weaken c (isDigit_plain digit)

/-- An element name is not empty. -/
theorem ElementName.text_ne_nil (element : ElementName) : element.text ≠ [] := by
  -- Its last identifier is not.
  simp [ElementName.text, element.last.nonempty]

/-- No suffix holds white space. -/
theorem TypeSuffix.text_visible (suffix : TypeSuffix) : ∀ c ∈ suffix.text, isBlank c = false := by
  intro c member
  cases suffix with
  | array commas =>
    simp only [TypeSuffix.text, List.mem_append, List.mem_cons, List.mem_replicate,
      List.not_mem_nil, or_false] at member
    rcases member with (rfl | ⟨_, rfl⟩) | rfl <;> decide
  | pointer => simp_all [TypeSuffix.text]; decide
  | reference => simp_all [TypeSuffix.text]; decide

/-- The suffixes of a name start with a character that ends the element before them. -/
theorem suffixes_head (suffixes : List TypeSuffix) :
    ∀ c ∈ (suffixes.flatMap TypeSuffix.text).head?, endsElement c = true ∧ c ≠ '<' := by
  -- It is the opening bracket, the star or the ampersand of the first of them.
  intro c found
  cases suffixes with
  | nil => simp at found
  | cons suffix rest =>
    cases suffix <;> simp [TypeSuffix.text] at found <;> subst found <;> decide

/-- A written name has no white space at its ends. -/
theorem visibleEnds_writtenName (element : ElementName) (arguments : List (List Char))
    (suffixes : List TypeSuffix) : VisibleEnds (writtenName element arguments suffixes) := by
  -- It starts with its element, and ends with a suffix, a bracket or its element.
  rw [writtenName, List.append_assoc]
  refine visibleEnds_append element.text_ne_nil (fun c member => (element.text_plain c member).2) ?_
  intro c found
  simp only [List.getLast?_append, Option.mem_def, Option.or_eq_some_iff] at found
  rcases found with inSuffix | ⟨_, inList⟩
  · obtain ⟨suffix, _, member⟩ := List.mem_flatMap.mp (List.mem_of_getLast? inSuffix)
    exact suffix.text_visible c member
  · cases arguments with
    | nil => simp [argumentListText] at inList
    | cons first rest =>
      simp only [argumentListText, List.getLast?_concat, Option.some.injEq] at inList
      subst inList
      decide

/-- Trimming a written name takes away the white space around it. -/
theorem TypeTree.trim_text (before : Blanks) (element : ElementName) (arguments : List TypeTree)
    (suffixes : List TypeSuffix) (after : Blanks) :
    trim (TypeTree.node before element arguments suffixes after).text =
      writtenName element (TypeTree.texts arguments) suffixes := by
  -- The name itself is visible at both ends, so nothing else goes.
  rw [TypeTree.text, trim_append_right after.blank, trim_append_left before.blank,
    trim_visible (visibleEnds_writtenName ..)]

/-- Something is left of a written name when it is trimmed. -/
theorem TypeTree.trim_text_ne_nil (tree : TypeTree) : trim tree.text ≠ [] := by
  -- The element is.
  cases tree
  simp [TypeTree.trim_text, writtenName, ElementName.text_ne_nil]

/-- Suffixes are nested text, the commas of an array standing inside of its brackets. -/
theorem nested_suffixes (suffixes : List TypeSuffix) :
    Nested false (suffixes.flatMap TypeSuffix.text) := by
  induction suffixes with
  | nil => exact .empty
  | cons suffix rest ih =>
    rw [List.flatMap_cons]
    refine Nested.append ?_ ih
    cases suffix with
    | array commas =>
      -- Inside of the brackets any number of commas is allowed.
      refine .squares ?_
      induction commas with
      | zero => exact .empty
      | succ commas ih => exact Nested.append (.plain (by decide) fun _ => rfl) ih
    | pointer => exact .of_plain (by simp [TypeSuffix.text, isBracket])
    | reference => exact .of_plain (by simp [TypeSuffix.text, isBracket])

/-- A name is nested text if its arguments are. -/
theorem nested_writtenName (element : ElementName) {arguments : List (List Char)}
    (suffixes : List TypeSuffix) (nested : ∀ argument ∈ arguments, Nested true argument) :
    Nested false (writtenName element arguments suffixes) := by
  -- Its element has neither brackets nor commas, and its arguments stand between angle brackets.
  have inElement : Nested false element.text := by
    refine .of_plain fun c member => ?_
    obtain ⟨unbracketed, noComma, _⟩ := unstopped (element.text_plain c member).1
    exact ⟨unbracketed, noComma⟩
  have inList : Nested false (argumentListText arguments) := by
    cases arguments with
    | nil => exact .empty
    | cons first rest => exact .angles (.intercalate nested)
  exact (inElement.append inList).append (nested_suffixes suffixes)

/-- White space is nested text. -/
theorem Blanks.nested (blanks : Blanks) : Nested false blanks.text := by
  -- None of the brackets is white space, and neither is the comma.
  refine .of_plain fun c member => ⟨isBracket_blank (blanks.blank c member), ?_⟩
  rintro rfl
  exact absurd (blanks.blank ',' member) (by decide)

/-- Every written name is nested text. -/
theorem TypeTree.nested (tree : TypeTree) : Nested false tree.text := by
  -- The arguments are nested text of their own, and may stand between commas.
  induction tree using TypeTree.induct with
  | node before element arguments suffixes after ih =>
    have inArguments : ∀ text ∈ TypeTree.texts arguments, Nested true text := by
      intro text member
      rw [TypeTree.texts_eq] at member
      obtain ⟨argument, inside, rfl⟩ := List.mem_map.mp member
      exact (ih argument inside).allow
    exact (before.nested.append (nested_writtenName element suffixes inArguments)).append
      after.nested

/-- The arguments of a name are nested text, each on its own. -/
theorem TypeTree.nested_texts {trees : List TypeTree} :
    ∀ text ∈ TypeTree.texts trees, Nested false text := by
  intro text member
  rw [TypeTree.texts_eq] at member
  obtain ⟨tree, _, rfl⟩ := List.mem_map.mp member
  exact tree.nested

/-- Nothing in an element name ends it. -/
theorem ElementName.text_unended (element : ElementName) :
    ∀ c ∈ element.text, endsElement c = false :=
  fun c member => (unstopped (element.text_plain c member).1).2.2

/-- The parts of a name without arguments. -/
theorem splitTypeName_bare (element : ElementName) (suffixes : List TypeSuffix) :
    splitTypeName (writtenName element [] suffixes) =
      ⟨element.text, none, suffixes.flatMap TypeSuffix.text⟩ := by
  -- No suffix opens a list of arguments.
  have cut := CutName.bare element.text_unended (suffixes_head suffixes)
  simpa [TypeNameParts.text, writtenName, argumentListText] using cut.again

/-- The parts of a name with arguments. -/
theorem splitTypeName_generic (element : ElementName) {arguments : List (List Char)}
    (suffixes : List TypeSuffix) (nonempty : arguments ≠ [])
    (nested : ∀ argument ∈ arguments, Nested true argument) :
    splitTypeName (writtenName element arguments suffixes) =
      ⟨element.text, some ([','].intercalate arguments), suffixes.flatMap TypeSuffix.text⟩ := by
  obtain ⟨first, rest, rfl⟩ := List.exists_cons_of_ne_nil nonempty
  -- The bracket that closes the list is the partner of the one that opens it.
  have closed := cutAtClose_nested_close (Nested.intercalate nested)
    (suffixes.flatMap TypeSuffix.text)
  have cut := CutName.generic element.text_unended closed
  simpa [TypeNameParts.text, writtenName, argumentListText] using cut.again

end BreakpointGlyph
