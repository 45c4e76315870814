import BreakpointGlyph.Disk.Fault

/-! Errors of setting up the log, by cause, with one wording each. -/

namespace BreakpointGlyph

/-- Why the log cannot be set up. -/
inductive LoggingError where
  | invalidFormat (text : String)
  | invalidLevel (text : String)
  | invalidFile (path : String)
  | fileOpen (path : String) (fault : FileFault)
  | alreadyStarted
  | directory (fault : FileFault)
deriving DecidableEq, Repr

/-- The wording of an error. -/
def LoggingError.message : LoggingError → String
  | .invalidFormat text => "Unknown log format: " ++ text ++ ". Use 'pretty' or 'json'"
  | .invalidLevel text =>
    "Unknown log level: " ++ text ++ ". Use 'error', 'warn', 'info', 'debug', or 'trace'"
  | .invalidFile path => "Invalid log file path: " ++ path
  | .fileOpen path fault =>
    "Cannot open log file " ++ path ++ ": failed to create log file: " ++ fault.message
  | .alreadyStarted =>
    "Failed to initialize logging: a global default trace dispatcher has already been set"
  | .directory fault => "File logging error: " ++ fault.message

end BreakpointGlyph
