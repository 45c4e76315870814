import BreakpointGlyph.CommandLine.Given

/-! A command line names a command, and what it does not give has a default. -/

namespace BreakpointGlyph

/-- What to describe, with every default filled in. -/
structure DescribeRequest where
  module : String
  token : UInt32
  ilOffset : UInt32
  mapping : IlMapping
  base : UInt64
  nativeOffset : UInt64
  line : Nat
  column : Nat
  source : Option String
  offset : Option Nat
  method : Option String
  declaringType : String
  namespaceName : String
  parameters : List String
  returnType : Option String
  segments : Bool
deriving DecidableEq, Repr

/-- Fills in the defaults; a base address has been given wherever this is asked for. -/
def GivenOptions.request (given : GivenOptions) : DescribeRequest where
  module := given.module.getD "module.dll"
  token := given.token.getD 0x06000001
  ilOffset := given.ilOffset.getD 0
  mapping := given.mapping.getD .exact
  base := given.base.getD 0
  nativeOffset := given.nativeOffset.getD 0
  line := given.line.getD 0
  column := given.column.getD 0
  source := given.source
  offset := given.offset
  method := given.method
  declaringType := given.declaringType.getD "Program"
  namespaceName := given.namespaceName.getD ""
  parameters := given.parameters
  returnType := given.returnType
  segments := given.segments

/-- The commands of the program. -/
inductive Command where
  | describe (request : DescribeRequest)
  | mappings
deriving DecidableEq, Repr

/-- The command that lists the mappings takes no arguments. -/
def checkNoArguments : List String → Except UsageError Unit
  | [] => .ok ()
  | word :: rest =>
    match ArgumentWord.ofText word with
    | .endOfOptions => if rest = [] then .ok () else .error .unknownArgument
    | .long name attached =>
      if name = "help" then
        if attached.isSome then .error .unexpectedValue else .error .helpShown
      else .error .unknownArgument
    | .short letter => if letter = 'h' then .error .helpShown else .error .unknownArgument
    | .plain => .error .unknownArgument

/-- The words that name a command. -/
def commandNames : List String :=
  ["describe", "mappings", "help"]

/-- Help can be asked for about the program or about one of its commands. -/
def helpAbout : List String → UsageError
  | [] => .helpShown
  | [name] => if name ∈ commandNames then .helpShown else .unknownCommand
  | _ => .unknownCommand

/-- A word that names no command is an option of the program, or a command it does not have. -/
def programOption (word : String) (rest : List String) : UsageError :=
  match ArgumentWord.ofText word with
  | .endOfOptions =>
    match rest with
    | [] => .commandMissing
    | next :: _ => if next ∈ commandNames then .unknownArgument else .unknownCommand
  | .long name attached =>
    if name = "help" ∨ name = "version" then
      if attached.isSome then .unexpectedValue
      else if name = "help" then .helpShown
      else .versionShown
    else .unknownArgument
  | .short letter =>
    if letter = 'h' then .helpShown
    else if letter = 'V' then .versionShown
    else .unknownArgument
  | .plain => .unknownCommand

/-- Reads a command line, without the name of the program. -/
def Command.ofArguments : List String → Except UsageError Command
  | [] => .error .commandMissing
  | "describe" :: rest => (GivenOptions.ofArguments rest).map fun given => .describe given.request
  | "mappings" :: rest => (checkNoArguments rest).map fun _ => .mappings
  | "help" :: rest => .error (helpAbout rest)
  | word :: rest => .error (programOption word rest)

end BreakpointGlyph
