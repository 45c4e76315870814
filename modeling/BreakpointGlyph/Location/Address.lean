import BreakpointGlyph.Numeral.Digits

/-! Native addresses: machine words of 64 bits that wrap around when an offset is added. -/

namespace BreakpointGlyph

/-- A native address. -/
structure Address where
  value : UInt64
deriving DecidableEq, Repr

/-- The address at an offset, wrapping around at the end of the address space. -/
def Address.add (base : Address) (offset : UInt64) : Address :=
  ⟨base.value + offset⟩

/-- The address at an offset, where it lies within the address space. -/
def Address.add? (base : Address) (offset : UInt64) : Option Address :=
  if base.value.toNat + offset.toNat < UInt64.size then some (base.add offset) else none

/-- The null address. -/
def Address.isZero (address : Address) : Bool :=
  address.value == 0

/-- An address as shown: at least eight hexadecimal digits. -/
def Address.text (address : Address) : String :=
  hexText 8 address.value.toNat

end BreakpointGlyph
