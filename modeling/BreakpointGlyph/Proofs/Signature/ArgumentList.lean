import BreakpointGlyph.Proofs.Signature.KeptBrackets
import BreakpointGlyph.Signature.ArgumentList
import Mathlib.Data.List.Induction

/-! Lists of generic arguments and their arguments: a list that is made up of arguments is cut into
them again, and the arguments that any list is cut into make up such a list. -/

namespace BreakpointGlyph

/-! Open brackets -/

/-- A character is a bracket that opens, or one that closes, or none, and is counted as such. -/
theorem bracket_cases (c : Char) :
    (opensBracket c = true ∧ closesBracket c = false ∧ ∀ depth, bracketDepth depth c = depth + 1) ∨
      (opensBracket c = false ∧ closesBracket c = true ∧
        ∀ depth, bracketDepth depth c = depth - 1) ∨
      (opensBracket c = false ∧ closesBracket c = false ∧
        ∀ depth, bracketDepth depth c = depth) := by
  by_cases opens : c = '<' ∨ c = '['
  · rcases opens with rfl | rfl <;> exact .inl ⟨rfl, rfl, fun _ => rfl⟩
  · by_cases closes : c = '>' ∨ c = ']'
    · rcases closes with rfl | rfl <;> exact .inr (.inl ⟨rfl, rfl, fun _ => rfl⟩)
    · refine .inr (.inr ⟨?_, ?_, fun depth => ?_⟩)
      · simpa [opensBracket] using opens
      · simpa [closesBracket] using closes
      · rw [bracketDepth, if_neg opens, if_neg closes]

/-- More brackets than some number are open behind a text exactly if, in some stretch at its end,
those opened outnumber those closed by more than that. All that stands in front of the stretch makes
no difference: closing brackets that outnumber the opening ones there are ignored. -/
theorem lt_depthAfter_iff {level : Nat} {text : List Char} :
    level < depthAfter 0 text ↔
      ∃ near, near <:+ text ∧ near.countP closesBracket + level < near.countP opensBracket := by
  -- The induction is on the end of the text, which all stretches but the empty one share.
  induction text using List.reverseRecOn generalizing level with
  | nil => simp [depthAfter]
  | append_singleton front c ih =>
    have ended : (∃ near, near <:+ front ++ [c] ∧
        near.countP closesBracket + level < near.countP opensBracket) ↔
          ∃ near, near <:+ front ∧ near.countP closesBracket + level + [c].countP closesBracket <
            near.countP opensBracket + [c].countP opensBracket := by
      simp only [Nat.add_right_comm _ level, ← List.countP_append]
      constructor
      · rintro ⟨near, ending, more⟩
        rcases List.suffix_concat_iff.mp ending with rfl | ⟨shorter, rfl, behind⟩
        · simp at more
        · exact ⟨shorter, behind, more⟩
      · rintro ⟨near, behind, more⟩
        exact ⟨near ++ [c], List.suffix_concat_iff.mpr (.inr ⟨near, rfl, behind⟩), more⟩
    have last : depthAfter 0 (front ++ [c]) = bracketDepth (depthAfter 0 front) c := by
      simp [depthAfter]
    rw [ended, last]
    rcases bracket_cases c with ⟨opens, closes, depth⟩ | ⟨opens, closes, depth⟩ |
      ⟨opens, closes, depth⟩
    · -- The bracket alone is a stretch with one bracket open.
      simp only [List.countP_singleton, opens, closes, depth]
      cases level with
      | zero => simpa using ⟨[], by simp⟩
      | succ level => simpa [← Nat.add_assoc] using @ih level
    · -- One bracket more has to be open in front of the one that closes.
      have before : level < depthAfter 0 front - 1 ↔ level + 1 < depthAfter 0 front := by omega
      simp only [List.countP_singleton, opens, closes, depth]
      rw [before, ih]
      simp [Nat.add_assoc]
    · simpa [opens, closes, depth] using @ih level

/-- Commas are enclosed exactly if some bracket is open in front of each of them. -/
theorem commasEnclosed_iff {depth : Nat} {text : List Char} :
    CommasEnclosed depth text ↔
      ∀ front, front ++ [','] <+: text → 0 < depthAfter depth front := by
  constructor
  · rintro enclosed front ⟨back, rfl⟩
    rw [List.append_assoc, commasEnclosed_append] at enclosed
    exact enclosed.2.1 rfl
  · intro inside
    induction text generalizing depth with
    | nil => trivial
    | cons c rest ih =>
      -- A comma at the start has nothing in front of it, and any other one has the first character.
      refine ⟨fun comma => inside [] (by simp [comma]), ih fun front start => ?_⟩
      exact inside (c :: front) (by simpa using start)

/-- Balanced text has its commas enclosed, and closes what it opens. -/
theorem BalancedArgument.enclosed {text : List Char} (balanced : BalancedArgument text) :
    CommasEnclosed 0 text ∧ depthAfter 0 text = 0 := by
  constructor
  · -- More brackets are opened than closed in all that stands in front of a comma.
    refine commasEnclosed_iff.mpr fun front start => lt_depthAfter_iff.mpr ⟨front, ?_, ?_⟩
    · exact List.suffix_refl front
    · simpa using balanced.commas front start
  · -- If more were opened than closed at the end, more would be closed than opened in front of it.
    refine Nat.eq_zero_of_not_pos fun positive => ?_
    obtain ⟨near, ⟨front, rfl⟩, more⟩ := lt_depthAfter_iff.mp positive
    have before := balanced.opened front (List.prefix_append front near)
    have whole := balanced.closed
    simp only [List.countP_append] at whole
    omega

/-! Lists that are made up -/

/-- The white space around an argument changes nothing about its commas and brackets. -/
theorem ListedArgument.enclosed (item : ListedArgument) :
    CommasEnclosed 0 item.text ∧ depthAfter 0 item.text = 0 := by
  have before := blanks_plain item.before.blank 0
  have after := blanks_plain item.after.blank 0
  have inside := item.balanced.enclosed
  simp [ListedArgument.text, before, inside, after]

/-- Trimming leaves the argument itself. -/
theorem ListedArgument.trim_text (item : ListedArgument) : trim item.text = item.argument := by
  rw [text, trim_append_right item.after.blank, trim_append_left item.before.blank, item.trimmed]

/-- The arguments that a list is made up of are the arguments of the list. -/
theorem genericArguments_listedText (items : List ListedArgument) :
    genericArguments (listedText items) = items.map ListedArgument.argument := by
  cases items with
  | nil => rfl
  | cons first rest =>
    have closed : ∀ part ∈ (first :: rest).map ListedArgument.text,
        CommasEnclosed 0 part ∧ depthAfter 0 part = 0 := by
      intro part member
      obtain ⟨item, -, rfl⟩ := List.mem_map.mp member
      exact item.enclosed
    have trimmed : ((first :: rest).map ListedArgument.text).map trim =
        (first :: rest).map ListedArgument.argument := by
      rw [List.map_map]
      exact List.map_congr_left fun item _ => item.trim_text
    rw [genericArguments, listedText, splitAtCommas_intercalate (by simp) (.of_closed closed),
      trimmed, List.filter_eq_self]
    -- No argument is dropped, since none is empty.
    intro argument member
    obtain ⟨item, -, rfl⟩ := List.mem_map.mp member
    simpa using item.nonempty

/-- The arguments of a list are not empty, and they have no white space at their ends and no comma
outside of brackets. They are the arguments of the list that they make up as well, with or without
white space behind its commas. Balanced arguments are cut from the list that they make up as they
are, whatever white space is around each of them. -/
theorem genericArguments_listed (list : List Char) :
    (∀ argument ∈ genericArguments list,
        argument ≠ [] ∧ trim argument = argument ∧ CommasInside argument) ∧
      (∀ blanks : Blanks,
        genericArguments ((',' :: blanks.text).intercalate (genericArguments list)) =
          genericArguments list) ∧
      ∀ items, genericArguments (listedText items) = items.map ListedArgument.argument := by
  have separable := separable_genericArguments list
  refine ⟨fun argument member => ?_, fun blanks => ?_, genericArguments_listedText⟩
  · obtain ⟨nonempty, visible⟩ := genericArguments_visible member
    exact ⟨nonempty, trim_visible visible, commasEnclosed_iff.mp (separable.enclosed member)⟩
  · exact genericArguments_separable blanks.blank separable fun _ => genericArguments_visible

/-- Brackets of different kinds may close each other. One that closes nothing is ignored, and one
that is never closed encloses all that follows. -/
theorem genericArguments_listed_misnested :
    (∃ items, listedText items = " A<B,C]\t,\tD ".toList ∧
        genericArguments (listedText items) = ["A<B,C]".toList, "D".toList]) ∧
      let loose := genericArguments "]a<,b>, ,c[d,".toList
      loose = ["]a<,b>".toList, "c[d,".toList] ∧
        genericArguments ([',', '\t'].intercalate loose) = loose := by
  obtain ⟨-, joined, listed⟩ := genericArguments_listed "]a<,b>, ,c[d,".toList
  let space : Blanks := ⟨[' '], by simp [isBlank, inRanges, blankRanges]⟩
  let tab : Blanks := ⟨['\t'], by simp [isBlank, inRanges, blankRanges]⟩
  let first : ListedArgument := ⟨space, "A<B,C]".toList, tab, by decide, by decide, by decide⟩
  let second : ListedArgument := ⟨tab, "D".toList, space, by decide, by decide, by decide⟩
  exact ⟨⟨[first, second], by decide, listed _⟩, by decide, joined tab⟩

end BreakpointGlyph
