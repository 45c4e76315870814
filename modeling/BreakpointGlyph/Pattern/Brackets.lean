import BreakpointGlyph.Pattern.Atom
import BreakpointGlyph.Text.Reading

/-! Classes of characters between brackets, with ranges, nested classes and operators. -/

namespace BreakpointGlyph

/-- Parts side by side are one level higher than the highest of them, unless there is only one. -/
def rowHeight : List Nat → Nat
  | [] => 0
  | [only] => only
  | heights => heights.foldl max 0 + 1

/-- A class that is being read: whether nothing but hyphens has come yet, the heights of the parts
since the last operator, and the height of all before that operator. -/
structure OpenBrackets where
  fresh : Bool := true
  parts : List Nat := []
  left : Option Nat := none
deriving DecidableEq, Repr

/-- The height of what has been read; an operator is one level higher than its two sides. -/
def OpenBrackets.height (brackets : OpenBrackets) : Nat :=
  match brackets.left with
  | none => rowHeight brackets.parts
  | some left => max left (rowHeight brackets.parts) + 1

/-- A class after one more part. -/
def OpenBrackets.add (brackets : OpenBrackets) (height : Nat) : OpenBrackets :=
  ⟨false, height :: brackets.parts, brackets.left⟩

/-- A class after an operator; operators group to the left. -/
def OpenBrackets.operator (brackets : OpenBrackets) : OpenBrackets :=
  ⟨false, [], some brackets.height⟩

/-- The classes of ASCII characters that have a name. -/
def asciiClassNames : List String :=
  ["alnum", "alpha", "ascii", "blank", "cntrl", "digit", "graph", "lower", "print", "punct",
    "space", "upper", "word", "xdigit"]

/-- Reads a name between colons after a bracket, and whether a hat makes it a complement. -/
def readAsciiClass (text : List Char) : Option (Bool × List Char) := do
  let inside ← if text.head? = some ':' then some text.tail else none
  let complement := inside.head? == some '^'
  let named := if complement then inside.tail else inside
  match named.dropWhile (· != ':') with
  | ':' :: ']' :: rest =>
    if asciiClassNames.contains (String.ofList (named.takeWhile (· != ':'))) then
      some (complement, rest)
    else none
  | _ => none

/-- A named class of ASCII characters needs no table, but among bytes its complement is none. -/
def asciiClassAllowed (mode : PatternMode) (complement : Bool) : Bool :=
  if mode.unicode then !mode.foldsCase else !complement

/-- Reads an atom, or a range from one literal to a later one. -/
def readBracketPart (mode : PatternMode) (text : List Char) : Option (List Char) := do
  let (first, rest) ← readAtom mode text
  let single := if first.allowedInBrackets mode then some (mode.skip rest) else none
  match mode.skip rest with
  | [] => none
  | '-' :: after =>
    -- A hyphen in front of the closing bracket or of another hyphen makes no range.
    if mode.peek? after = some ']' ∨ mode.peek? after = some '-' then single
    else
      let (last, beyond) ← readAtom mode (mode.skip after)
      match first, last with
      | .literal low _, .literal high _ =>
        if low ≤ high && first.allowedInBrackets mode && last.allowedInBrackets mode then
          some beyond
        else none
      | _, _ => none
  | _ => single

/-- Opens a class after its bracket; among bytes a complement holds bytes that are no characters. -/
def openBrackets (mode : PatternMode) (text : List Char) : Option (OpenBrackets × List Char) :=
  match mode.skip text with
  | '^' :: rest => if mode.unicode then some ({}, rest) else none
  | rest => some ({}, rest)

/-- Reads an operator between classes: an ampersand, a hyphen or a tilde, written twice. -/
def readOperator : List Char → Option (List Char)
  | '&' :: '&' :: rest => some rest
  | '-' :: '-' :: rest => some rest
  | '~' :: '~' :: rest => some rest
  | _ => none

/-- The classes that are open: the innermost one, and those around it. -/
structure BracketNesting where
  inner : OpenBrackets
  outer : List OpenBrackets
deriving DecidableEq, Repr

/-- Changes the innermost class. -/
def BracketNesting.withInner (nesting : BracketNesting) (inner : OpenBrackets) : BracketNesting :=
  ⟨inner, nesting.outer⟩

/-- Opens a class inside the innermost one. -/
def BracketNesting.nest (nesting : BracketNesting) (inner : OpenBrackets) : BracketNesting :=
  ⟨inner, nesting.inner :: nesting.outer⟩

/-- Closes the innermost class, which is then a part of the one around it. -/
def BracketNesting.close (nesting : BracketNesting) (rest : List Char) :
    ReadStep BracketNesting (Nat × List Char) :=
  let height := nesting.inner.height + 1
  match nesting.outer with
  | [] => .done (height, rest)
  | around :: others => .more ⟨around.add height, others⟩ rest

/-- Hyphens that come first, and a closing bracket that does, stand for themselves. -/
def OpenBrackets.takesItself (brackets : OpenBrackets) (c : Char) : Bool :=
  brackets.fresh && (c == '-' || c == ']' && brackets.parts.isEmpty)

/-- Reads one part of a class, a bracket that opens a class inside it, or the one that closes it. -/
def BracketNesting.step (mode : PatternMode) (nesting : BracketNesting) (text : List Char) :
    Option (ReadStep BracketNesting (Nat × List Char)) :=
  let brackets := nesting.inner
  match mode.skip text with
  | [] => none
  | '[' :: rest =>
    match readAsciiClass rest with
    | some (complement, after) =>
      if asciiClassAllowed mode complement then
        some (.more (nesting.withInner (brackets.add 0)) after)
      else none
    | none => do
      let (inner, after) ← openBrackets mode rest
      return .more (nesting.nest inner) after
  | c :: rest =>
    if brackets.takesItself c then
      if (PatternAtom.literal c false).allowedInBrackets mode then
        some (.more (nesting.withInner ⟨c == '-', 0 :: brackets.parts, brackets.left⟩) rest)
      else none
    else if c = ']' then some (nesting.close rest)
    else
      match readOperator (c :: rest) with
      | some after => some (.more (nesting.withInner brackets.operator) after)
      | none => do
        return .more (nesting.withInner (brackets.add 0)) (← readBracketPart mode (c :: rest))

/-- Reads a class after its bracket; the result is its height, and what comes after it. -/
def readBrackets (mode : PatternMode) (text : List Char) : Option (Nat × List Char) := do
  let (inner, rest) ← openBrackets mode text
  readBySteps (BracketNesting.step mode) ⟨inner, []⟩ rest

/-- A closing bracket that comes first belongs to the class, and a class inside it adds a level. -/
example : readBrackets {} [']', ']', '*'] = some (1, ['*']) ∧
    readBrackets {} ['[', 'a', ']', ']'] = some (2, []) := by decide +kernel

end BreakpointGlyph
