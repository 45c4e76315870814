import BreakpointGlyph.Text.Classified

/-! The well-known types of the `System` namespace that have a keyword of their own, and lines in
which those keywords are spelled out. -/

namespace BreakpointGlyph

/-- The types with a keyword, each as its name within `System` and its keyword. -/
def typeKeywords : List (String × String) :=
  [("Void", "void"), ("Boolean", "bool"), ("Char", "char"), ("SByte", "sbyte"), ("Byte", "byte"),
    ("Int16", "short"), ("UInt16", "ushort"), ("Int32", "int"), ("UInt32", "uint"),
    ("Int64", "long"), ("UInt64", "ulong"), ("Single", "float"), ("Double", "double"),
    ("Decimal", "decimal"), ("String", "string"), ("Object", "object")]

/-- The keyword of a type, from its full name. -/
def typeKeyword? (name : List Char) : Option String :=
  (typeKeywords.find? fun entry => ("System." ++ entry.1).toList == name).map Prod.snd

/-- The type that a keyword stands for, as its name within `System`. -/
def keywordType? (keyword : String) : Option String :=
  (typeKeywords.find? fun entry => entry.2 == keyword).map Prod.fst

/-- A type of the `System` namespace, which is named in front of it where namespaces are shown. -/
def systemTypeSegments (namespaces : Bool) (name : String) : List Segment :=
  (if namespaces then [⟨.namespaceName, "System"⟩, .mark "."] else []) ++ [⟨.typeName, name⟩]

/-- A segment spelled out: a keyword gives way to the type that it stands for. -/
def Segment.spelledOut (namespaces : Bool) (segment : Segment) : List Segment :=
  match segment.color, keywordType? segment.text with
  | .keyword, some name => systemTypeSegments namespaces name
  | _, _ => [segment]

/-- A line with all of its keywords spelled out. -/
def withoutKeywords (namespaces : Bool) (line : List Segment) : List Segment :=
  line.flatMap (Segment.spelledOut namespaces)

/-- A line, and the same line with some of its types shortened to their keywords. -/
inductive KeywordsShown (namespaces : Bool) : List Segment → List Segment → Prop where
  | empty : KeywordsShown namespaces [] []
  | keep {segment : Segment} {line shorter : List Segment} (other : segment.color ≠ .keyword) :
      KeywordsShown namespaces line shorter →
        KeywordsShown namespaces (segment :: line) (segment :: shorter)
  | shorten {name keyword : String} {line shorter : List Segment}
      (known : (name, keyword) ∈ typeKeywords) :
      KeywordsShown namespaces line shorter →
        KeywordsShown namespaces (systemTypeSegments namespaces name ++ line)
          (⟨.keyword, keyword⟩ :: shorter)

end BreakpointGlyph
