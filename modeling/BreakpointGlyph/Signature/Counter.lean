import BreakpointGlyph.Signature.TypeName

/-! The search for a closing bracket with a counter that must not go below zero, and what a type
name owes the parts that it is cut into. -/

namespace BreakpointGlyph

/-- What a search for the bracket that closes a list comes to. -/
inductive BracketSearch where
  | closed (inside after : List Char)
  | unclosed
  | underflow
deriving DecidableEq, Repr

/-- Counts the open brackets of a text, of which some characters have been passed and some brackets
are open, until no bracket is open any more. The list that is closed there lies behind the first
character passed. There is nothing to count down where no bracket is open. -/
def searchClosing (depth : Nat) (passed : List Char) : List Char → BracketSearch
  | [] => .unclosed
  | c :: rest =>
    if c = '<' then searchClosing (depth + 1) (passed ++ [c]) rest
    else if c = '>' then
      match depth with
      | 0 => .underflow
      | 1 => .closed passed.tail rest
      | depth + 2 => searchClosing (depth + 1) (passed ++ [c]) rest
    else searchClosing depth (passed ++ [c]) rest

/-- A bracket that closes a list where none is open takes the counter below zero. -/
example : searchClosing 0 [] ['>'] = .underflow := by decide

/-- What a search finds, said by the parts of a name. -/
def TypeNameParts.search (parts : TypeNameParts) : BracketSearch :=
  match parts.arguments with
  | some inside => .closed inside parts.suffix
  | none => .unclosed

/-- Text in which every bracket that closes a list has a partner in front of it, and every bracket
that opens one has a partner behind it. -/
structure BalancedAngles (text : List Char) : Prop where
  closed : text.count '<' = text.count '>'
  opened : ∀ front, front <+: text → front.count '>' ≤ front.count '<'

/-- Nothing of a name is lost by cutting it: its parts make up the name, its arguments are balanced,
its element has no mark unless all of the name is the element, and only then is nothing cut off. The
counter of the search for the closing bracket is never taken below zero. -/
structure WhollyCut (name : List Char) (parts : TypeNameParts) : Prop where
  whole : parts.text = name
  balanced : ∀ inside, parts.arguments = some inside → BalancedAngles inside
  plain : parts.arguments ≠ none ∨ parts.suffix ≠ [] → ∀ c ∈ parts.element, endsElement c = false
  uncut : parts.arguments = none ∧ parts.suffix = [] ↔
    (∀ c ∈ name, endsElement c = false) ∨ UnclosedName name
  counted : ∀ element rest, name = element ++ '<' :: rest →
    (∀ c ∈ element, endsElement c = false) →
      searchClosing 0 [] ('<' :: rest) = parts.search

end BreakpointGlyph
