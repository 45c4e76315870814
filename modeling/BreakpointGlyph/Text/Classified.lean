/-! Classified text: pieces of a line, each with the kind of thing it names. -/

namespace BreakpointGlyph

/-- The kinds of text that a reader sees in different colors. -/
inductive TextColor where
  | text
  | punctuation
  | keyword
  | namespaceName
  | typeName
  | methodName
  | parameterName
  | number
  | operator
deriving DecidableEq, Repr

/-- The name of a color, as shown beside a segment. -/
def TextColor.name : TextColor → String
  | .text => "text"
  | .punctuation => "punctuation"
  | .keyword => "keyword"
  | .namespaceName => "namespace"
  | .typeName => "type"
  | .methodName => "method"
  | .parameterName => "parameter"
  | .number => "number"
  | .operator => "operator"

/-- A stretch of text in one color. -/
structure Segment where
  color : TextColor
  text : String
deriving DecidableEq, Repr

/-- A segment of a given color made of a list of characters. -/
def Segment.ofChars (color : TextColor) (text : List Char) : Segment :=
  ⟨color, String.ofList text⟩

/-- A segment of punctuation. -/
def Segment.mark (text : String) : Segment :=
  ⟨.punctuation, text⟩

/-- The single space between two parts. -/
def Segment.space : Segment :=
  ⟨.text, " "⟩

/-- The text of a line of segments, without its colors. -/
def plainText (segments : List Segment) : String :=
  String.join (segments.map Segment.text)

/-- The characters of a line are the characters of its segments in order. -/
theorem toList_plainText (segments : List Segment) :
    (plainText segments).toList = segments.flatMap fun segment => segment.text.toList := by
  -- Joining the texts concatenates their characters.
  simp [plainText, String.toList_join, List.flatMap_map]

/-- The text of two lines side by side is the two texts side by side. -/
theorem plainText_append (front back : List Segment) :
    plainText (front ++ back) = plainText front ++ plainText back := by
  -- Two strings with the same characters are equal.
  apply String.toList_inj.mp
  simp [toList_plainText, String.toList_append]

/-- The text of a line starts with the text of its first segment. -/
theorem plainText_cons (first : Segment) (rest : List Segment) :
    plainText (first :: rest) = first.text ++ plainText rest := by
  apply String.toList_inj.mp
  simp [toList_plainText, String.toList_append]

/-- A mark alone is shown as it is. -/
theorem plainText_mark (mark : String) : plainText [.mark mark] = mark := by
  simp [plainText, Segment.mark]

end BreakpointGlyph
