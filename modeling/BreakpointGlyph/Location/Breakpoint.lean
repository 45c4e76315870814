import BreakpointGlyph.Location.Address
import BreakpointGlyph.Location.Mapping
import BreakpointGlyph.Location.Method

/-! Where a breakpoint is: in native code, at an IL offset, or at a bare address. -/

namespace BreakpointGlyph

/-- A location in the native code of a method, with the IL offset that it maps to. -/
structure NativeLocation where
  module : ModuleId
  token : MethodToken
  ilOffset : UInt32
  mapping : IlMapping
  base : Address
  nativeOffset : UInt64
deriving DecidableEq, Repr

/-- The address of the location itself. -/
def NativeLocation.address (location : NativeLocation) : Address :=
  location.base.add location.nativeOffset

/-- The number of that address: the base and the offset added up, wrapping around at 64 bits. -/
def NativeLocation.addressNumber (location : NativeLocation) : Nat :=
  (location.base.value.toNat + location.nativeOffset.toNat) % UInt64.size

/-- The address of a location is the one with its number. -/
theorem NativeLocation.toNat_address (location : NativeLocation) :
    location.address.value.toNat = location.addressNumber :=
  -- Adding machine words wraps around in the same way.
  UInt64.toNat_add location.base.value location.nativeOffset

/-- The identity of the method that the location is in. -/
def NativeLocation.methodId (location : NativeLocation) : MethodId :=
  ⟨location.module, location.token⟩

/-- The places that a breakpoint can be bound to. -/
inductive BreakpointLocation where
  | native (location : NativeLocation)
  | il (method : MethodId) (ilOffset : UInt32)
  | address (address : Address)
deriving DecidableEq, Repr

/-- An IL offset as shown: a number where the mapping gives one, and the kind otherwise. -/
def ilOffsetText (mapping : IlMapping) (ilOffset : UInt32) : String :=
  match mapping with
  | .exact => hexText 4 ilOffset.toNat
  | .approximate => "~" ++ hexText 4 ilOffset.toNat
  | .prolog => "(prolog)"
  | .epilog => "(epilog)"
  | .unknown => "(???)"
  | .noInfo => "(???)"
  | .unmappedAddress => "(???)"

/-- The kinds of mapping that are all shown in the same way, as giving no IL offset. -/
def unclearMappings : List IlMapping :=
  [.unknown, .noInfo, .unmappedAddress]

/-- Two locations with IL offsets that read the same: the same number, equally certain, or the same
kind of place that has none. -/
def NativeLocation.SameIlOffset (location other : NativeLocation) : Prop :=
  (location.mapping = .exact ∧ other.mapping = .exact ∧ location.ilOffset = other.ilOffset) ∨
    (location.mapping = .approximate ∧ other.mapping = .approximate ∧
      location.ilOffset = other.ilOffset) ∨
    (location.mapping = .prolog ∧ other.mapping = .prolog) ∨
    (location.mapping = .epilog ∧ other.mapping = .epilog) ∨
    (location.mapping ∈ unclearMappings ∧ other.mapping ∈ unclearMappings)

end BreakpointGlyph
