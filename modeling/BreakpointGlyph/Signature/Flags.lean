/-! Which parts of a method a signature shows. -/

namespace BreakpointGlyph

/-- The parts of a signature that can be shown or left out. -/
structure SignatureFlags where
  parameterTypes : Bool
  parameterNames : Bool
  ownerTypes : Bool
  returnTypes : Bool
  namespaces : Bool
  typeKeywords : Bool
deriving DecidableEq, Repr

/-- By default everything is shown. -/
def SignatureFlags.all : SignatureFlags :=
  ⟨true, true, true, true, true, true⟩

/-- The flags of a bit set, one bit each from the lowest up; higher bits mean nothing. -/
def SignatureFlags.ofBits (bits : Nat) : SignatureFlags where
  parameterTypes := bits.testBit 0
  parameterNames := bits.testBit 1
  ownerTypes := bits.testBit 2
  returnTypes := bits.testBit 3
  namespaces := bits.testBit 4
  typeKeywords := bits.testBit 5

/-- The bit set of some flags. -/
def SignatureFlags.bits (flags : SignatureFlags) : Nat :=
  flags.parameterTypes.toNat + 2 * flags.parameterNames.toNat + 4 * flags.ownerTypes.toNat +
    8 * flags.returnTypes.toNat + 16 * flags.namespaces.toNat + 32 * flags.typeKeywords.toNat

/-- The bits of some flags give these flags back. -/
theorem SignatureFlags.ofBits_bits (flags : SignatureFlags) : ofBits flags.bits = flags := by
  -- Each of the sixty-four sets is checked.
  rcases flags with ⟨_ | _, _ | _, _ | _, _ | _, _ | _, _ | _⟩ <;> decide

/-- The same flags, but with namespaces shown or left out. -/
def SignatureFlags.withNamespaces (flags : SignatureFlags) (shown : Bool) : SignatureFlags :=
  { flags with namespaces := shown }

/-- The same flags, but with keywords shown or left out. -/
def SignatureFlags.withTypeKeywords (flags : SignatureFlags) (shown : Bool) : SignatureFlags :=
  { flags with typeKeywords := shown }

/-- Flags that show nothing that others do not show. -/
structure SignatureFlags.Within (flags more : SignatureFlags) : Prop where
  parameterTypes : flags.parameterTypes = true → more.parameterTypes = true
  parameterNames : flags.parameterNames = true → more.parameterNames = true
  ownerTypes : flags.ownerTypes = true → more.ownerTypes = true
  returnTypes : flags.returnTypes = true → more.returnTypes = true
  namespaces : flags.namespaces = true → more.namespaces = true
  typeKeywords : flags.typeKeywords = true → more.typeKeywords = true

/-- A bit set that is contained in another one shows nothing that the other does not. -/
theorem SignatureFlags.ofBits_within {bits more : Nat} (contained : bits &&& more = bits) :
    (ofBits bits).Within (ofBits more) := by
  -- Whatever bit is set in the one is set in what the two have in common.
  have kept : ∀ place, bits.testBit place = true → more.testBit place = true := by
    intro place given
    rw [← contained, Nat.testBit_and, Bool.and_eq_true] at given
    exact given.2
  exact ⟨kept 0, kept 1, kept 2, kept 3, kept 4, kept 5⟩

end BreakpointGlyph
