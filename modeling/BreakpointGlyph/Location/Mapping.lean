import BreakpointGlyph.Error
import BreakpointGlyph.Numeral.Digits

/-! How a native code offset maps to an IL offset: seven kinds, with a code and a name each. -/

namespace BreakpointGlyph

/-- The kinds of mapping from a native code offset to an IL offset. -/
inductive IlMapping where
  | unknown
  | prolog
  | epilog
  | exact
  | approximate
  | noInfo
  | unmappedAddress
deriving DecidableEq, Repr

/-- All kinds in the order of their codes. -/
def IlMapping.all : List IlMapping :=
  [.unknown, .prolog, .epilog, .exact, .approximate, .noInfo, .unmappedAddress]

/-- The code of a kind, which is its place in the order. -/
def IlMapping.code : IlMapping → Nat
  | .unknown => 0
  | .prolog => 1
  | .epilog => 2
  | .exact => 3
  | .approximate => 4
  | .noInfo => 5
  | .unmappedAddress => 6

/-- The name of a kind. -/
def IlMapping.name : IlMapping → String
  | .unknown => "unknown"
  | .prolog => "prolog"
  | .epilog => "epilog"
  | .exact => "exact"
  | .approximate => "approximate"
  | .noInfo => "no-info"
  | .unmappedAddress => "unmapped-address"

/-- The IL offset of a location says something only for two kinds. -/
def IlMapping.hasIlOffset : IlMapping → Bool
  | .exact => true
  | .approximate => true
  | _ => false

/-- The kind with a given code. -/
def IlMapping.ofCode (code : Nat) : Except GlyphError IlMapping :=
  match IlMapping.all[code]? with
  | some mapping => .ok mapping
  | none => .error (.unknownMapping code)

/-- The kind that a plain name stands for, two kinds having a short name besides. -/
def IlMapping.ofPlainName? (name : List Char) : Option IlMapping :=
  match String.ofList name with
  | "unknown" => some .unknown
  | "prolog" => some .prolog
  | "epilog" => some .epilog
  | "exact" => some .exact
  | "approximate" => some .approximate
  | "approx" => some .approximate
  | "noinfo" => some .noInfo
  | "unmappedaddress" => some .unmappedAddress
  | "unmapped" => some .unmappedAddress
  | _ => none

/-- A plain name has no hyphens, no underscores and no capital letters. -/
def plainMappingName (text : List Char) : List Char :=
  (text.filter fun c => c != '-' && c != '_').map Char.toLower

/-- Reads a kind from a name or a code, once hyphens, underscores and letter case are gone. -/
def IlMapping.parse (text : String) : Except GlyphError IlMapping :=
  let plain := plainMappingName text.toList
  match IlMapping.ofPlainName? plain with
  | some mapping => .ok mapping
  | none =>
    match readNumeral 10 UInt32.size plain with
    | .ok code => IlMapping.ofCode code
    | .error _ => .error (.invalidMappingName text)

/-- The code of a kind gives that kind back. -/
theorem IlMapping.ofCode_code (mapping : IlMapping) : ofCode mapping.code = .ok mapping := by
  -- Each kind stands at its code in the list of all kinds.
  cases mapping <;> rfl

/-- The name of a kind reads back as that kind. -/
theorem IlMapping.parse_name (mapping : IlMapping) : parse mapping.name = .ok mapping := by
  -- Removing the hyphens of each of the seven names leaves its plain name.
  cases mapping <;> rfl

end BreakpointGlyph
