import BreakpointGlyph.Signature.Flags
import BreakpointGlyph.Signature.Keyword
import BreakpointGlyph.Text.Blank

/-! Well-formed type names as trees: how such a name is written, and what is shown of it. -/

namespace BreakpointGlyph

/-- A stretch of white space. -/
structure Blanks where
  text : List Char
  blank : ∀ c ∈ text, isBlank c = true

/-- The characters that have a meaning of their own in a type name. -/
def typeNameMarks : List Char :=
  ['.', ',', '<', '>', '[', ']', '*', '&', '\x60']

/-- An identifier is not empty, and has no marks and no white space in it. -/
structure TypeIdentifier where
  text : List Char
  nonempty : text ≠ []
  plain : ∀ c ∈ text, c ∉ typeNameMarks ∧ isBlank c = false

/-- The number of parameters of a generic type, in decimal digits. -/
structure TypeArity where
  digits : List Char
  nonempty : digits ≠ []
  decimal : ∀ c ∈ digits, c.isDigit = true

/-- An element name: the namespaces around it, the identifier itself, and perhaps an arity. -/
structure ElementName where
  qualifiers : List TypeIdentifier
  last : TypeIdentifier
  arity : Option TypeArity

/-- What follows an element: ranks of arrays, pointers and references. -/
inductive TypeSuffix where
  | array (commas : Nat)
  | pointer
  | reference
deriving DecidableEq, Repr

/-- A type name; white space may stand around it, and an empty list of arguments is not written. -/
inductive TypeTree where
  | node (before : Blanks) (element : ElementName) (arguments : List TypeTree)
      (suffixes : List TypeSuffix) (after : Blanks)

/-! Writing a name -/

/-- The namespaces of an element, each with the dot behind it. -/
def ElementName.qualifierText (element : ElementName) : List Char :=
  element.qualifiers.flatMap fun qualifier => qualifier.text ++ ['.']

/-- The arity of an element behind a backquote. -/
def ElementName.arityText (element : ElementName) : List Char :=
  match element.arity with
  | none => []
  | some arity => '\x60' :: arity.digits

/-- An element name as written. -/
def ElementName.text (element : ElementName) : List Char :=
  element.qualifierText ++ (element.last.text ++ element.arityText)

/-- A suffix as written. -/
def TypeSuffix.text : TypeSuffix → List Char
  | .array commas => '[' :: List.replicate commas ',' ++ [']']
  | .pointer => ['*']
  | .reference => ['&']

/-- Arguments as written, with nothing but a comma between two of them. -/
def argumentListText : List (List Char) → List Char
  | [] => []
  | texts => '<' :: [','].intercalate texts ++ ['>']

/-- A name as written, given its arguments as written, without white space around it. -/
def writtenName (element : ElementName) (arguments : List (List Char))
    (suffixes : List TypeSuffix) : List Char :=
  element.text ++ argumentListText arguments ++ suffixes.flatMap TypeSuffix.text

mutual

/-- A type name as written. -/
def TypeTree.text : TypeTree → List Char
  | .node before element arguments suffixes after =>
    before.text ++ writtenName element (TypeTree.texts arguments) suffixes ++ after.text

/-- Several type names as written. -/
def TypeTree.texts : List TypeTree → List (List Char)
  | [] => []
  | tree :: rest => tree.text :: TypeTree.texts rest

end

/-! Showing a name -/

/-- The keyword of an element that stands right in `System`, has no arity and is well known. -/
def ElementName.keyword? (element : ElementName) : Option String :=
  match element.qualifiers, element.arity with
  | [qualifier], none =>
    if qualifier.text = "System".toList then
      (typeKeywords.find? fun entry => entry.1.toList == element.last.text).map Prod.snd
    else none
  | _, _ => none

/-- What is shown of an element: never its arity, and its namespaces only where they are wanted. -/
def ElementName.shown (flags : SignatureFlags) (element : ElementName) : List Char :=
  (if flags.namespaces then element.qualifierText else []) ++ element.last.text

/-- What is shown of a name, given what is shown of its arguments. -/
def shownName (flags : SignatureFlags) (element : ElementName) (arguments : List (List Char))
    (suffixes : List TypeSuffix) : List Char :=
  let head :=
    match arguments with
    | [] =>
      match flags.typeKeywords, element.keyword? with
      | true, some keyword => keyword.toList
      | _, _ => element.shown flags
    | arguments => element.shown flags ++ '<' :: [',', ' '].intercalate arguments ++ ['>']
  head ++ suffixes.flatMap TypeSuffix.text

mutual

/-- What is shown of a type name. -/
def TypeTree.shown (flags : SignatureFlags) : TypeTree → List Char
  | .node _ element arguments suffixes _ =>
    shownName flags element (TypeTree.allShown flags arguments) suffixes

/-- What is shown of several type names. -/
def TypeTree.allShown (flags : SignatureFlags) : List TypeTree → List (List Char)
  | [] => []
  | tree :: rest => tree.shown flags :: TypeTree.allShown flags rest

end

/-- The written arguments are the arguments in order, each as written. -/
@[simp] theorem TypeTree.texts_eq (trees : List TypeTree) : texts trees = trees.map text := by
  induction trees with
  | nil => rfl
  | cons tree rest ih => simp [texts, ih]

/-- The shown arguments are the arguments in order, each as shown. -/
@[simp] theorem TypeTree.allShown_eq (flags : SignatureFlags) (trees : List TypeTree) :
    allShown flags trees = trees.map (shown flags) := by
  induction trees with
  | nil => rfl
  | cons tree rest ih => simp [allShown, ih]

/-- What holds of a name whenever it holds of its arguments holds of every name. -/
@[elab_as_elim]
theorem TypeTree.induct {motive : TypeTree → Prop}
    (node : ∀ before element arguments suffixes after,
      (∀ argument ∈ arguments, motive argument) →
        motive (.node before element arguments suffixes after)) :
    ∀ tree, motive tree
  | .node before element arguments suffixes after =>
    node before element arguments suffixes after fun argument _ => induct node argument

end BreakpointGlyph
