import BreakpointGlyph.Pattern.Brackets
import BreakpointGlyph.Text.Letter

/-! Patterns: groups of branches, and the items and repetitions that a branch consists of. -/

namespace BreakpointGlyph

/-- An item of a branch: its height, and whether it can be repeated. -/
structure PatternItem where
  height : Nat
  repeatable : Bool
deriving DecidableEq, Repr

/-- A group that is being read: its mode from here on, the heights of its branches but the last, and
the items of the last branch, the latest of either first. -/
structure PatternGroup where
  mode : PatternMode := {}
  branches : List Nat := []
  items : List PatternItem := []
deriving DecidableEq, Repr

/-- The height of the branch that is being read. -/
def PatternGroup.branchHeight (group : PatternGroup) : Nat :=
  rowHeight (group.items.map PatternItem.height)

/-- The height of what a group holds. -/
def PatternGroup.height (group : PatternGroup) : Nat :=
  rowHeight (group.branchHeight :: group.branches)

/-- A group after one more item that can be repeated. -/
def PatternGroup.add (group : PatternGroup) (height : Nat) : PatternGroup :=
  { group with items := ⟨height, true⟩ :: group.items }

/-- A group in which the next branch begins. -/
def PatternGroup.split (group : PatternGroup) : PatternGroup :=
  { group with branches := group.branchHeight :: group.branches, items := [] }

/-- A group after its last item is repeated, if there is one that can be. -/
def PatternGroup.repeatLast? (group : PatternGroup) : Option PatternGroup :=
  match group.items with
  | ⟨height, true⟩ :: others => some { group with items := ⟨height + 1, true⟩ :: others }
  | _ => none

/-- A group whose mode changes from here on; that is an item of its own, but not to be repeated. -/
def PatternGroup.change (group : PatternGroup) (letters : List Char) : PatternGroup :=
  ⟨group.mode.change true letters, group.branches, ⟨0, false⟩ :: group.items⟩

/-- The groups that are open, and the names that have been given to groups. -/
structure PatternNesting where
  inner : PatternGroup := {}
  outer : List PatternGroup := []
  names : List (List Char) := []
deriving DecidableEq, Repr

/-- Changes the innermost group. -/
def PatternNesting.withInner (nesting : PatternNesting) (inner : PatternGroup) : PatternNesting :=
  ⟨inner, nesting.outer, nesting.names⟩

/-- Opens a group in a mode. -/
def PatternNesting.nest (nesting : PatternNesting) (mode : PatternMode) : PatternNesting :=
  ⟨⟨mode, [], []⟩, nesting.inner :: nesting.outer, nesting.names⟩

/-- Closes the innermost group; the mode is again that of the group around it. -/
def PatternNesting.close? (nesting : PatternNesting) : Option PatternNesting :=
  match nesting.outer with
  | [] => none
  | around :: others => some ⟨around.add (nesting.inner.height + 1), others, nesting.names⟩

/-- A name starts with a letter or a low line; after that it has numbers, dots and brackets too. -/
def isGroupName : List Char → Bool
  | [] => false
  | first :: rest =>
    (first == '_' || isAlphabetic first) &&
      rest.all fun c => c == '_' || c == '.' || c == '[' || c == ']' || isAlphanumeric c

/-- Opens a group after the bracket in front of its name; no two groups have the same name. -/
def PatternNesting.openNamed (nesting : PatternNesting) (text : List Char) :
    Option (PatternNesting × List Char) :=
  let name := text.takeWhile (· != '>')
  match text.dropWhile (· != '>') with
  | [] => none
  | _ :: rest =>
    if isGroupName name && !nesting.names.contains name then
      some (⟨⟨nesting.inner.mode, [], []⟩, nesting.inner :: nesting.outer,
        name :: nesting.names⟩, rest)
    else none

/-- Reads the letters of a mode, which a colon makes the mode of a group that opens here, and a
parenthesis that of the rest of the innermost group. -/
def PatternNesting.changeMode (nesting : PatternNesting) (text : List Char) :
    Option (PatternNesting × List Char) :=
  let letters := text.takeWhile fun c => c != ':' && c != ')'
  if changesMode letters then
    match text.dropWhile fun c => c != ':' && c != ')' with
    | [] => none
    | ':' :: rest => some (nesting.nest (nesting.inner.mode.change true letters), rest)
    | _ :: rest =>
      if letters = [] then none
      else some (nesting.withInner (nesting.inner.change letters), rest)
  else none

/-- Reads what follows an opening parenthesis. -/
def PatternNesting.openGroup (nesting : PatternNesting) : List Char →
    Option (PatternNesting × List Char)
  | '?' :: 'P' :: '<' :: rest => nesting.openNamed rest
  | '?' :: '<' :: rest => nesting.openNamed rest
  | '?' :: rest => nesting.changeMode rest
  | rest => some (nesting.nest nesting.inner.mode, rest)

/-- Reads one atom. -/
def PatternNesting.addAtom (nesting : PatternNesting) (text : List Char) :
    Option (PatternNesting × List Char) := do
  let (atom, rest) ← readAtom nesting.inner.mode text
  if atom.allowed nesting.inner.mode then some (nesting.withInner (nesting.inner.add 0), rest)
  else none

/-- Reads one item of a branch, or what separates, repeats or encloses items. -/
def PatternNesting.read (nesting : PatternNesting) (c : Char) (rest : List Char) :
    Option (PatternNesting × List Char) :=
  let group := nesting.inner
  if c = '(' then nesting.openGroup (group.mode.skip rest)
  else if c = ')' then nesting.close?.map fun closed => (closed, rest)
  else if c = '|' then some (nesting.withInner group.split, rest)
  else if c = '[' then do
    let (height, after) ← readBrackets group.mode rest
    return (nesting.withInner (group.add height), after)
  else if c = '*' ∨ c = '+' ∨ c = '?' then do
    -- A question mark right after a repetition asks for the shortest match.
    let after := if rest.head? = some '?' then rest.tail else rest
    return (nesting.withInner (← group.repeatLast?), after)
  else if c = '^' ∨ c = '$' then some (nesting.withInner (group.add 0), rest)
  else if c = '.' then
    if group.mode.unicode then some (nesting.withInner (group.add 0), rest) else none
  -- A count of repetitions would end in a closing brace, and no pattern can hold one.
  else if c = '{' then none
  else nesting.addAtom (c :: rest)

/-- One step of reading a pattern; at the end of the text no group may be open. -/
def PatternNesting.step (nesting : PatternNesting) (text : List Char) :
    Option (ReadStep PatternNesting Nat) :=
  match nesting.inner.mode.skip text with
  | [] => if nesting.outer = [] then some (.done nesting.inner.height) else none
  | c :: rest => (nesting.read c rest).map fun (next, after) => .more next after

/-- The height of a pattern, if a text is one. -/
def patternHeight? (text : List Char) : Option Nat :=
  readBySteps PatternNesting.step {} text

/-- The greatest height that a pattern may have. -/
def greatestPatternHeight : Nat := 250

/-- A text is a pattern if it can be read as one and is not too high. -/
def isPattern (text : List Char) : Bool :=
  (patternHeight? text).any (· ≤ greatestPatternHeight)

/-- A branch may be empty, but nothing cannot be repeated. -/
example : isPattern ['a', '|'] = true ∧ isPattern ['a', '|', '*'] = false := by decide +kernel

end BreakpointGlyph
