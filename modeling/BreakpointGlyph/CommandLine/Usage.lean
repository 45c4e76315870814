import BreakpointGlyph.CommandLine.Option
import BreakpointGlyph.Text.Terminal

/-! How a command line can fail to be a command, and the words of it. -/

namespace BreakpointGlyph

/-- Why the words of a command line are no command to run. -/
inductive UsageError where
  | helpShown
  | versionShown
  | commandMissing
  | unknownCommand
  | unknownArgument
  | missingValue
  | invalidValue (option : DescribeOption) (value reason : String)
  | unexpectedValue
  | conflict
  | missingOption
deriving DecidableEq, Repr

/-- Help and the version are asked for, so showing them is a success. -/
def UsageError.isRequest : UsageError → Bool
  | .helpShown => true
  | .versionShown => true
  | _ => false

/-- The wording of a wrong value and a hint at the help, in the styles that a terminal shows. -/
def styledInvalidValue (option : DescribeOption) (value reason : String) : String :=
  let literal (text : String) := "'" ++ styled "1" text ++ "'"
  styled "1;31" "error:" ++ " invalid value '" ++ styled "33" value ++ "' for " ++
    literal ("--" ++ option.name ++ " <" ++ option.placeholder ++ ">") ++ ": " ++ reason ++
    "\n\nFor more information, try " ++ literal "--help" ++ "."

/-- The wording of a usage error, without styles. -/
def UsageError.message : UsageError → String
  | .helpShown => "Usage: glyphfmt <describe|mappings|help>"
  | .versionShown => "glyphfmt 0.0.0"
  | .commandMissing => "error: a command is required"
  | .unknownCommand => "error: unrecognized subcommand"
  | .unknownArgument => "error: unexpected argument found"
  | .missingValue => "error: a value is required but none was supplied"
  | .invalidValue option value reason =>
    -- A value can hold control sequences of its own, and one left open swallows what follows it.
    withoutControls (styledInvalidValue option value reason)
  | .unexpectedValue => "error: unexpected value found"
  | .conflict => "error: an argument cannot be used together with another one"
  | .missingOption => "error: a required argument was not provided"

/-- A word of a command line by its shape. -/
inductive ArgumentWord where
  | endOfOptions
  | long (name : String) (attached : Option String)
  | short (letter : Char)
  | plain
deriving DecidableEq, Repr

/-- The shape of a word: hyphens in front make an option, and a hyphen alone does not. -/
def ArgumentWord.ofText (word : String) : ArgumentWord :=
  match word.toList with
  | ['-', '-'] => .endOfOptions
  | '-' :: '-' :: rest =>
    -- A value may be attached to a long name after an equals sign.
    let name := String.ofList (rest.takeWhile (· != '='))
    match rest.dropWhile (· != '=') with
    | [] => .long name none
    | _ :: value => .long name (some (String.ofList value))
  | '-' :: letter :: _ => .short letter
  | _ => .plain

end BreakpointGlyph
