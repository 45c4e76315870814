import BreakpointGlyph.Logging.Record
import BreakpointGlyph.Numeral.Digits

/-! Limits of a log: how talkative its records may be. -/

namespace BreakpointGlyph

/-- The most talkative level that is let through, or none where everything is held back. -/
abbrev LogLimit := Option LogLevel

/-- A limit lets a level through that is not more talkative. -/
def LogLimit.admits (limit : LogLimit) (level : LogLevel) : Bool :=
  match limit with
  | some most => level.rank ≤ most.rank
  | none => false

/-- The limit that lets everything through. -/
def LogLimit.everything : LogLimit :=
  some .trace

/-- The limit with a given rank, zero standing for none at all. -/
def LogLimit.ofRank? : Nat → Option LogLimit
  | 0 => some none
  | 1 => some (some .error)
  | 2 => some (some .warn)
  | 3 => some (some .info)
  | 4 => some (some .debug)
  | 5 => some (some .trace)
  | _ => none

/-- The limit with a given name in small letters. -/
def LogLimit.ofName? : String → Option LogLimit
  | "off" => some none
  | "error" => some (some .error)
  | "warn" => some (some .warn)
  | "info" => some (some .info)
  | "debug" => some (some .debug)
  | "trace" => some (some .trace)
  | _ => none

/-- Reads a limit from its rank or from its name, in letters of either case. -/
def LogLimit.parse? (text : List Char) : Option LogLimit :=
  match readNumeral 10 UInt64.size text with
  | .ok rank => LogLimit.ofRank? rank
  | .error _ => LogLimit.ofName? (String.ofList (text.map Char.toLower))

end BreakpointGlyph
