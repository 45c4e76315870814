import BreakpointGlyph.Location.Mapping
import BreakpointGlyph.Numeral.Grammar

/-! What a text stands for as a kind of mapping: its names in any spelling, or its code. -/

namespace BreakpointGlyph

/-- Hyphens and underscores separate the words of a name. -/
def isSeparator (c : Char) : Bool :=
  c == '-' || c == '_'

/-- A text without its separators. -/
def withoutSeparators (text : List Char) : List Char :=
  text.filter fun c => !isSeparator c

/-- A text spells a name if it is that name with letters in either case and separators anywhere. -/
inductive Spells : List Char → List Char → Prop
  | nil : Spells [] []
  | separator {c : Char} {text name : List Char} (separates : isSeparator c = true)
      (spelled : Spells text name) : Spells (c :: text) name
  | letter {c : Char} {text name : List Char} (spelled : Spells text name) :
      Spells (c :: text) (c.toLower :: name)

/-- The names of a kind in small letters, two kinds having a short name besides. -/
def IlMapping.plainNames : IlMapping → List String
  | .unknown => ["unknown"]
  | .prolog => ["prolog"]
  | .epilog => ["epilog"]
  | .exact => ["exact"]
  | .approximate => ["approximate", "approx"]
  | .noInfo => ["noinfo"]
  | .unmappedAddress => ["unmappedaddress", "unmapped"]

/-- A text names a kind if it spells one of its names. -/
def IlMapping.NamedBy (mapping : IlMapping) (text : List Char) : Prop :=
  ∃ name ∈ mapping.plainNames, Spells text name.toList

/-- What comes of reading a text as a kind, if `digits` is what is read as a code where the text is
no name: the kind, or what is wrong with the text. -/
inductive MappingReading (text : String) (digits : List Char) : Except GlyphError IlMapping → Prop
  | name {mapping : IlMapping} (named : mapping.NamedBy text.toList) :
      MappingReading text digits (.ok mapping)
  | code {mapping : IlMapping} (coded : NumeralOf 10 digits mapping.code) :
      MappingReading text digits (.ok mapping)
  | unknownCode {code : Nat} (coded : NumeralOf 10 digits code) (unknown : 6 < code)
      (fits : code < UInt32.size) : MappingReading text digits (.error (.unknownMapping code))
  | invalid (unnamed : ∀ mapping : IlMapping, ¬mapping.NamedBy text.toList)
      (uncoded : ∀ code < UInt32.size, ¬NumeralOf 10 digits code) :
      MappingReading text digits (.error (.invalidMappingName text))

end BreakpointGlyph
