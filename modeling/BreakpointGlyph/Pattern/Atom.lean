import BreakpointGlyph.Numeral.Digits
import BreakpointGlyph.Pattern.Mode

/-! Atoms of a pattern: literal characters, classes with a name of one letter, and edges. -/

namespace BreakpointGlyph

/-- The smallest part of a pattern; a literal may be written as the number of a byte, and a class
may be the complement of another one. -/
inductive PatternAtom where
  | literal (c : Char) (asByte : Bool)
  | namedClass (complement : Bool)
  | textEdge
  | wordEdge
deriving DecidableEq, Repr

/-- An atom may stand in a pattern if it needs no table of all letters, which is what folding the
case of characters, classes of characters and words of characters need, and if no byte that it
matches is only a part of a character. -/
def PatternAtom.allowed (mode : PatternMode) : PatternAtom → Bool
  | .literal c asByte => if mode.unicode then !mode.foldsCase else !asByte || c.toNat < 0x80
  | .namedClass complement => !mode.unicode && !complement
  | .textEdge => true
  | .wordEdge => !mode.unicode

/-- Between brackets there are no edges, and no character of more than one byte among bytes. -/
def PatternAtom.allowedInBrackets (mode : PatternMode) : PatternAtom → Bool
  | .literal c _ => if mode.unicode then !mode.foldsCase else c.toNat < 0x80
  | .namedClass complement => !mode.unicode && !complement
  | .textEdge => false
  | .wordEdge => false

/-- Reads hexadecimal digits after those that made `value`. -/
def readCode (mode : PatternMode) (value : Nat) :
    Nat → List Char → Option (Nat × List Char)
  | 0, text => some (value, text)
  | count + 1, text => do
    let (c, rest) ← (mode.skip text).head?.map fun c => (c, (mode.skip text).tail)
    readCode mode (value * 16 + (← digitValue? 16 c)) count rest

/-- Reads a literal that is written as a number of given length. -/
def readCodeLiteral (mode : PatternMode) (digits : Nat) (text : List Char) :
    Option (PatternAtom × List Char) := do
  let (value, rest) ← readCode mode 0 digits text
  if value.isValidChar then some (.literal (Char.ofNat value) (digits == 2), rest) else none

/-- Control characters that have a letter to be written by. -/
def controlLetters : List (Char × Char) :=
  [('a', '\x07'), ('f', '\x0C'), ('t', '\t'), ('n', '\n'), ('r', '\r'), ('v', '\x0B')]

/-- The atom that a character stands for after a backslash, where nothing else belongs to it. -/
def PatternAtom.ofEscaped? (c : Char) : Option PatternAtom :=
  if c ∈ ['d', 's', 'w'] then some (.namedClass false)
  else if c ∈ ['D', 'S', 'W'] then some (.namedClass true)
  else if c ∈ ['A', 'z'] then some .textEdge
  else if c ∈ ['b', 'B', '<', '>'] then some .wordEdge
  else if c.toNat < 0x80 && !c.isAlphanum then some (.literal c false)
  else (controlLetters.lookup c).map fun control => .literal control false

/-- Reads what follows a backslash. -/
def readEscaped (mode : PatternMode) : List Char → Option (PatternAtom × List Char)
  | [] => none
  | 'x' :: rest => readCodeLiteral mode 2 rest
  | 'u' :: rest => readCodeLiteral mode 4 rest
  | 'U' :: rest => readCodeLiteral mode 8 rest
  | c :: rest => (PatternAtom.ofEscaped? c).map fun atom => (atom, rest)

/-- Reads a character that stands for itself, or what a backslash and its followers stand for. -/
def readAtom (mode : PatternMode) : List Char → Option (PatternAtom × List Char)
  | [] => none
  | '\\' :: rest => readEscaped mode rest
  | c :: rest => some (.literal c false, rest)

/-- A literal can be written by itself, after a backslash or as a number. -/
example : readAtom {} ['*'] = some (.literal '*' false, []) ∧
    readAtom {} ['\\', '*'] = some (.literal '*' false, []) ∧
    readAtom {} ['\\', 'x', '2', 'A'] = some (.literal '*' true, []) := by decide

end BreakpointGlyph
