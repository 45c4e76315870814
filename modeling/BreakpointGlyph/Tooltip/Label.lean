import BreakpointGlyph.Numeral.Digits
import BreakpointGlyph.Text.Cut

/-! Label templates: literal text with numbered placeholders, and braces written twice. -/

namespace BreakpointGlyph

/-- Reads the rest of a placeholder after its brace: the number in it, and what follows it. -/
def placeholderNumber? (text : List Char) : Option (Nat × List Char) :=
  match cutAtFirst '}' text with
  | none => none
  | some (digits, after) =>
    match readNumeral 10 UInt64.size digits with
    | .error _ => none
    | .ok index => some (index, after)

/-- What follows a placeholder is shorter than what follows its opening brace. -/
theorem length_of_placeholderNumber? {index : Nat} {text after : List Char}
    (found : placeholderNumber? text = some (index, after)) : after.length < text.length := by
  -- The closing brace at least has been read.
  unfold placeholderNumber? at found
  split at found
  · simp at found
  · rename_i digits rest cut
    split at found
    · simp at found
    · simp only [Option.some.injEq, Prod.mk.injEq] at found
      exact found.2 ▸ length_of_cutAtFirst cut

/-- Reads the rest of a placeholder after its brace, and finds the argument that it names. -/
def substitution? (arguments : List String) (text : List Char) : Option (String × List Char) :=
  match placeholderNumber? text with
  | none => none
  | some (index, after) => arguments[index]?.map fun argument => (argument, after)

/-- What follows a placeholder that is replaced is shorter as well. -/
theorem length_of_substitution? {arguments : List String} {argument : String}
    {text after : List Char} (found : substitution? arguments text = some (argument, after)) :
    after.length < text.length := by
  unfold substitution? at found
  split at found
  · simp at found
  · rename_i index rest number
    simp only [Option.map_eq_some_iff, Prod.mk.injEq] at found
    obtain ⟨_, -, -, rfl⟩ := found
    exact length_of_placeholderNumber? number

/-- What is written for a template. An argument takes the place of its placeholder and is not read as
a template again; every other lone brace is written as it is. -/
def fillFrom (arguments : List String) : List Char → List Char
  | [] => []
  | '{' :: '{' :: rest => '{' :: fillFrom arguments rest
  | '}' :: '}' :: rest => '}' :: fillFrom arguments rest
  | '{' :: rest =>
    match found : substitution? arguments rest with
    | some (argument, after) =>
      have := length_of_substitution? found
      argument.toList ++ fillFrom arguments after
    | none => '{' :: fillFrom arguments rest
  | c :: rest => c :: fillFrom arguments rest
termination_by text => text.length

/-- Fills a template. -/
def fillTemplate (template : String) (arguments : List String) : String :=
  String.ofList (fillFrom arguments template.toList)

/-- The templates of the three parts that a tooltip starts with. -/
structure GlyphLabels where
  lineCharacter : String := "line \x7b0\x7d, character \x7b1\x7d"
  ilOffset : String := "\x7b0\x7d"
  nativeAddress : String := "\x7b0\x7d"

end BreakpointGlyph
