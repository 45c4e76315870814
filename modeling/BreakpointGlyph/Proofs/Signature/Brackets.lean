import BreakpointGlyph.Proofs.Signature.Commas
import BreakpointGlyph.Proofs.Signature.NameParts

/-! Text with properly nested brackets passes both bracket counters of a type name unnoticed. -/

namespace BreakpointGlyph

/-- Text in which brackets meet their own partners; commas outside of them may be ruled out. -/
inductive Nested : Bool → List Char → Prop where
  | empty {commas : Bool} : Nested commas []
  | plain {commas : Bool} {c : Char} (unbracketed : isBracket c = false)
      (admitted : c = ',' → commas = true) : Nested commas [c]
  | append {commas : Bool} {front back : List Char} :
      Nested commas front → Nested commas back → Nested commas (front ++ back)
  | angles {commas : Bool} {inside : List Char} :
      Nested true inside → Nested commas ('<' :: inside ++ ['>'])
  | squares {commas : Bool} {inside : List Char} :
      Nested true inside → Nested commas ('[' :: inside ++ [']'])

/-- Text without brackets and commas is nested. -/
theorem Nested.of_plain {commas : Bool} {text : List Char}
    (plain : ∀ c ∈ text, isBracket c = false ∧ c ≠ ',') : Nested commas text := by
  -- Each character is a text of its own.
  induction text with
  | nil => exact .empty
  | cons c rest ih =>
    obtain ⟨unbracketed, noComma⟩ := plain c (by simp)
    have head : Nested commas [c] := .plain unbracketed fun same => absurd same noComma
    exact head.append (ih fun other member => plain other (by simp [member]))

/-- Nested text may stand where commas are allowed as well. -/
theorem Nested.allow {commas : Bool} {text : List Char} (nested : Nested commas text) :
    Nested true text := by
  -- Only single characters tell the two kinds of text apart.
  induction nested with
  | empty => exact .empty
  | plain unbracketed _ => exact .plain unbracketed fun _ => rfl
  | append _ _ front back => exact front.append back
  | angles inside _ => exact .angles inside
  | squares inside _ => exact .squares inside

/-- Parts that are nested make nested text when they are joined by commas that are allowed. -/
theorem Nested.intercalate {parts : List (List Char)} (nested : ∀ part ∈ parts, Nested true part) :
    Nested true ([','].intercalate parts) := by
  have comma : Nested true [','] := .plain (by decide) fun _ => rfl
  induction parts with
  | nil => exact .empty
  | cons first rest ih =>
    -- A comma stands behind each part but the last.
    have head := nested first (by simp)
    have tail := ih fun part member => nested part (by simp [member])
    cases rest with
    | nil => simpa using head
    | cons second others =>
      rw [List.intercalate_cons_cons]
      exact (head.append comma).append tail

/-- The search for a closing bracket passes over a character that is no bracket. -/
theorem cutAtClose_unbracketed {c : Char} (unbracketed : isBracket c = false) (depth : Nat)
    (rest : List Char) :
    cutAtClose depth (c :: rest) = (cutAtClose depth rest).map (Prod.map (c :: ·) id) := by
  simp only [isBracket, Bool.or_eq_false_iff, beq_eq_false_iff_ne] at unbracketed
  simp [cutAtClose_cons, unbracketed]

/-- The search for the closing bracket of a list passes over nested text. -/
theorem cutAtClose_nested {commas : Bool} {text : List Char} (nested : Nested commas text)
    (depth : Nat) (rest : List Char) :
    cutAtClose depth (text ++ rest) =
      (cutAtClose depth rest).map fun (inside, after) => (text ++ inside, after) := by
  -- Inside of angle brackets one more list is open, and square brackets are not counted.
  induction nested generalizing depth rest with
  | empty => simp
  | plain unbracketed _ => exact cutAtClose_unbracketed unbracketed depth rest
  | append _ _ front back =>
    rw [List.append_assoc, front, back, Option.map_map]
    simp [Function.comp_def]
  | angles _ ih =>
    simp only [List.cons_append, List.append_assoc, List.nil_append]
    rw [cutAtClose, ih]
    simp [cutAtClose, Function.comp_def]
  | squares _ ih =>
    simp only [List.cons_append, List.append_assoc, List.nil_append]
    rw [cutAtClose, ih]
    -- The two goals behind the main one say that a square bracket is no angle bracket.
    · simp [cutAtClose, Function.comp_def]
    · simp
    · simp

/-- A list of arguments that is nested text is closed by the bracket behind it. -/
theorem cutAtClose_nested_close {commas : Bool} {inside : List Char} (nested : Nested commas inside)
    (after : List Char) : cutAtClose 0 (inside ++ '>' :: after) = some (inside, after) := by
  -- No list is open at the bracket behind it.
  simp [cutAtClose_nested nested, cutAtClose]

/-- Nested text closes what it opens, and its commas are enclosed if they are wherever they are
allowed. -/
theorem Nested.enclosed {commas : Bool} {text : List Char} (nested : Nested commas text)
    {depth : Nat} (allowed : commas = true → 0 < depth) :
    CommasEnclosed depth text ∧ depthAfter depth text = depth := by
  -- Both kinds of brackets raise the depth for what they enclose.
  induction nested generalizing depth with
  | empty => exact ⟨trivial, rfl⟩
  | plain unbracketed admitted =>
    have level := bracketDepth_unbracketed unbracketed depth
    exact ⟨⟨fun comma => allowed (admitted comma), trivial⟩, level⟩
  | append _ _ front back =>
    obtain ⟨first, level⟩ := front allowed
    simpa [first, level] using back allowed
  | angles _ ih
  | squares _ ih =>
    have raised : true = true → 0 < depth + 1 := fun _ => Nat.succ_pos depth
    obtain ⟨inside, level⟩ := ih raised
    simp_all [CommasEnclosed, depthAfter, bracketDepth]

/-- Parts that are nested text are separable. -/
theorem Nested.separable {parts : List (List Char)}
    (nested : ∀ part ∈ parts, Nested false part) : Separable parts :=
  -- Each of them closes what it opens.
  .of_closed fun part member => (nested part member).enclosed (by simp)

end BreakpointGlyph
