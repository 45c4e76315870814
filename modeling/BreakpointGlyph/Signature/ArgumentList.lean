import BreakpointGlyph.Signature.TypeName
import BreakpointGlyph.Signature.TypeTree
import Mathlib.Data.List.Infix

/-! Lists of generic arguments as they may be written: balanced arguments with white space around
them. -/

namespace BreakpointGlyph

/-- The brackets that open a list of arguments or an array suffix. -/
def opensBracket (c : Char) : Bool :=
  c == '<' || c == '['

/-- The brackets that close a list of arguments or an array suffix. -/
def closesBracket (c : Char) : Bool :=
  c == '>' || c == ']'

/-- Some bracket is open in front of every comma of a text. Brackets are counted from the start of
the text, those of both kinds together, and a closing one too many is ignored. -/
def CommasInside (text : List Char) : Prop :=
  ∀ front, front ++ [','] <+: text → 0 < front.foldl bracketDepth 0

/-- Text in which brackets balance, those of both kinds being counted together: up to any place in
it no more of them are closed than opened, up to a comma fewer, and up to its end just as many. -/
structure BalancedArgument (text : List Char) : Prop where
  opened : ∀ front, front <+: text → front.countP closesBracket ≤ front.countP opensBracket
  closed : text.countP opensBracket = text.countP closesBracket
  commas : ∀ front, front ++ [','] <+: text →
    front.countP closesBracket < front.countP opensBracket

/-- Whether text is balanced is told by its starts. -/
instance (text : List Char) : Decidable (BalancedArgument text) :=
  decidable_of_iff
    (text.countP opensBracket = text.countP closesBracket ∧ ∀ front ∈ text.inits,
      front.countP closesBracket ≤ front.countP opensBracket ∧
        (front ++ [','] <+: text → front.countP closesBracket < front.countP opensBracket))
    ⟨fun ⟨closed, starts⟩ =>
      { opened := fun front start => (starts front ((List.mem_inits ..).mpr start)).1
        closed
        commas := fun front comma =>
          (starts front ((List.mem_inits ..).mpr ((List.prefix_append ..).trans comma))).2 comma },
      fun balanced => ⟨balanced.closed, fun front start =>
        ⟨balanced.opened front ((List.mem_inits ..).mp start), balanced.commas front⟩⟩⟩

/-- An argument as it stands in a list: balanced text that is not empty and has no white space at
its ends, between two stretches of white space. -/
structure ListedArgument where
  before : Blanks
  argument : List Char
  after : Blanks
  nonempty : argument ≠ []
  trimmed : trim argument = argument
  balanced : BalancedArgument argument

/-- An argument with the white space around it. -/
def ListedArgument.text (item : ListedArgument) : List Char :=
  item.before.text ++ item.argument ++ item.after.text

/-- A list of arguments as written, with a comma between two of them. -/
def listedText (items : List ListedArgument) : List Char :=
  [','].intercalate (items.map ListedArgument.text)

end BreakpointGlyph
