import BreakpointGlyph.Logging.DirectiveText

/-! Log filters: directives say how talkative each part of the program may be. -/

namespace BreakpointGlyph

/-- The directives of a filter in the order in which they were given. -/
abbrev LogFilter := List LogDirective

/-- The directive that decides about a record. -/
def LogFilter.deciding? (filter : LogFilter) (record : LogRecord) : Option LogDirective :=
  (List.filter (·.applies record) filter).foldl
    (fun best directive =>
      match best with
      | none => some directive
      | some earlier => if directive.overrides earlier then some directive else some earlier)
    none

/-- A filter lets a record through if the deciding directive does. -/
def LogFilter.admits (filter : LogFilter) (record : LogRecord) : Bool :=
  match filter.deciding? record with
  | some directive => directive.limit.admits record.level
  | none => false

/-- A filter with the same limit for all records. -/
def LogFilter.atLevel (level : LogLevel) : LogFilter :=
  [⟨none, none, none, some level⟩]

/-- Reads a filter; empty directives are skipped, and no directive at all lets errors through. -/
def LogFilter.parse (text : String) : Except DirectiveFault LogFilter :=
  match (text.toList.splitOn ',').filter (· ≠ []) with
  | [] => .ok (LogFilter.atLevel .error)
  | pieces => pieces.mapM LogDirective.parse

/-- The filter of a program: the one that is asked for, or a level where that is missing or
malformed; a filter whose parts cannot be cut out is none. -/
def LogFilter.ofText? (text : Option String) (fallback : LogLevel) : Option LogFilter :=
  match text.map LogFilter.parse with
  | none => some (LogFilter.atLevel fallback)
  | some (.ok filter) => some filter
  | some (.error .malformed) => some (LogFilter.atLevel fallback)
  | some (.error .splitCharacter) => none

end BreakpointGlyph
