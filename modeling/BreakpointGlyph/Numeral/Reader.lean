import BreakpointGlyph.Error
import BreakpointGlyph.Numeral.Digits
import BreakpointGlyph.Text.Blank

/-! Numbers typed by a user: decimal or marked hexadecimal, with white space around them. -/

namespace BreakpointGlyph

/-- Reads a number below a limit: hexadecimal after the marker `0x` or `0X`, decimal otherwise. -/
def readNumber (limit : Nat) (text : List Char) : Except NumeralError Nat :=
  match trim text with
  | '0' :: 'x' :: digits => readNumeral 16 limit digits
  | '0' :: 'X' :: digits => readNumeral 16 limit digits
  | digits => readNumeral 10 limit digits

/-- A number of 64 bits; a text that is none is reported as it was typed. -/
def parseUInt64 (text : String) : Except GlyphError UInt64 :=
  match readNumber UInt64.size text.toList with
  | .ok value => .ok (UInt64.ofNat value)
  | .error _ => .error (.invalidNumber text)

/-- A number of 32 bits: a number of 64 bits that is small enough. -/
def parseUInt32 (text : String) : Except GlyphError UInt32 :=
  match parseUInt64 text with
  | .ok value =>
    if value.toNat < UInt32.size then .ok value.toUInt32 else .error (.invalidNumber text)
  | .error error => .error error

end BreakpointGlyph
