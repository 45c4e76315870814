/-! Log records: a level, the part of the program that speaks, and named values. -/

namespace BreakpointGlyph

/-- How serious a record is, the least talkative level first. -/
inductive LogLevel where
  | error
  | warn
  | info
  | debug
  | trace
deriving DecidableEq, Repr

/-- The name of a level in a record. -/
def LogLevel.name : LogLevel → String
  | .error => "ERROR"
  | .warn => "WARN"
  | .info => "INFO"
  | .debug => "DEBUG"
  | .trace => "TRACE"

/-- The place of a level in the order of talkativeness, counted from one. -/
def LogLevel.rank : LogLevel → Nat
  | .error => 1
  | .warn => 2
  | .info => 3
  | .debug => 4
  | .trace => 5

/-- A value in a record. -/
inductive LogValue where
  | text (value : String)
  | number (value : Nat)
  | flag (value : Bool)
deriving DecidableEq, Repr

/-- A value as plain text. -/
def LogValue.plain : LogValue → String
  | .text value => value
  | .number value => value.repr
  | .flag value => toString value

/-- One record of the log. -/
structure LogRecord where
  level : LogLevel
  target : String
  message : String
  fields : List (String × LogValue)
deriving DecidableEq, Repr

end BreakpointGlyph
