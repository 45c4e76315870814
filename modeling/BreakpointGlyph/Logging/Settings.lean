import BreakpointGlyph.Disk.RawText
import BreakpointGlyph.Logging.Error
import BreakpointGlyph.Logging.Record

/-! Settings of the log, read from texts that may be missing or wrong. -/

namespace BreakpointGlyph

/-- How records are written: for people, or for programs. -/
inductive LogFormat where
  | pretty
  | json
deriving DecidableEq, Repr

/-- A word without regard to case; no character outside ASCII folds to a letter used here. -/
def foldedWord (text : String) : String :=
  String.ofList (text.toList.map Char.toLower)

/-- Reads a format by one of its names. -/
def LogFormat.parse (text : String) : Except LoggingError LogFormat :=
  match foldedWord text with
  | "pretty" => .ok .pretty
  | "dev" => .ok .pretty
  | "development" => .ok .pretty
  | "json" => .ok .json
  | "prod" => .ok .json
  | "production" => .ok .json
  | _ => .error (.invalidFormat text)

/-- Reads a level by one of its names. -/
def LogLevel.parse (text : String) : Except LoggingError LogLevel :=
  match foldedWord text with
  | "error" => .ok .error
  | "err" => .ok .error
  | "warn" => .ok .warn
  | "warning" => .ok .warn
  | "info" => .ok .info
  | "debug" => .ok .debug
  | "dbg" => .ok .debug
  | "trace" => .ok .trace
  | _ => .error (.invalidLevel text)

/-- The settings of the log. -/
structure LogSettings where
  format : LogFormat
  defaultLevel : LogLevel
  file : Option RawText
deriving DecidableEq, Repr

/-- The texts that settings are read from. -/
structure LogEnvironment where
  filter : Option String := none
  format : Option String := none
  file : Option String := none
deriving DecidableEq, Repr

/-- What a text that may be missing reads as, or a default where it is missing or wrong. -/
def readOr {α : Type} (parse : String → Except LoggingError α) (default : α) :
    Option String → α
  | none => default
  | some text =>
    match parse text with
    | .ok value => value
    | .error _ => default

/-- Settings from an environment; what is missing or wrong has a default, and no file is empty. -/
def LogSettings.resolve (environment : LogEnvironment) (fallback : LogLevel) : LogSettings where
  format := readOr LogFormat.parse .pretty environment.format
  defaultLevel := readOr LogLevel.parse fallback environment.filter
  file := (environment.file.filter (· ≠ "")).map RawText.ofString

end BreakpointGlyph
