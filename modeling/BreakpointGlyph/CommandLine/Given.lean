import BreakpointGlyph.CommandLine.Usage
import BreakpointGlyph.Location.Mapping
import BreakpointGlyph.Numeral.Reader

/-! What a command line gives explicitly for `describe`, read word by word. -/

namespace BreakpointGlyph

/-- The values that were given, before any default is filled in. -/
structure GivenOptions where
  module : Option String := none
  token : Option UInt32 := none
  ilOffset : Option UInt32 := none
  mapping : Option IlMapping := none
  base : Option UInt64 := none
  nativeOffset : Option UInt64 := none
  line : Option Nat := none
  column : Option Nat := none
  source : Option String := none
  offset : Option Nat := none
  method : Option String := none
  declaringType : Option String := none
  namespaceName : Option String := none
  parameters : List String := []
  returnType : Option String := none
  segments : Bool := false
deriving DecidableEq, Repr

/-- An option can be given once; its value is not even read if it was given before. -/
def giveOnce {α : Type} (earlier : Option α) (value : Except UsageError α) :
    Except UsageError (Option α) :=
  match earlier with
  | some _ => .error .conflict
  | none => value.map some

/-- The value of an option, or the reason why the text given for it is no such value. -/
def optionValue {α : Type} (option : DescribeOption) (text : String)
    (read : Except GlyphError α) : Except UsageError α :=
  match read with
  | .ok value => .ok value
  | .error error => .error (.invalidValue option text error.message)

/-- A plain decimal number, without white space or marker. -/
def plainNumber (option : DescribeOption) (text : String) : Except UsageError Nat :=
  match readNumeral 10 UInt64.size text.toList with
  | .ok value => .ok value
  | .error error => .error (.invalidValue option text error.message)

/-- Gives a value to an option; a parameter may be given any number of times. -/
def GivenOptions.give (given : GivenOptions) (option : DescribeOption) (text : String) :
    Except UsageError GivenOptions :=
  match option with
  | .module => (giveOnce given.module (.ok text)).map fun module => { given with module }
  | .token =>
    (giveOnce given.token (optionValue option text (parseUInt32 text))).map fun token =>
      { given with token }
  | .ilOffset =>
    (giveOnce given.ilOffset (optionValue option text (parseUInt32 text))).map fun ilOffset =>
      { given with ilOffset }
  | .mapping =>
    (giveOnce given.mapping (optionValue option text (IlMapping.parse text))).map fun mapping =>
      { given with mapping }
  | .base =>
    (giveOnce given.base (optionValue option text (parseUInt64 text))).map fun base =>
      { given with base }
  | .nativeOffset =>
    (giveOnce given.nativeOffset (optionValue option text (parseUInt64 text))).map
      fun nativeOffset => { given with nativeOffset }
  | .line => (giveOnce given.line (plainNumber option text)).map fun line => { given with line }
  | .column =>
    (giveOnce given.column (plainNumber option text)).map fun column => { given with column }
  | .source =>
    -- A path is never empty.
    (giveOnce given.source (if text = "" then .error .missingValue else .ok text)).map
      fun source => { given with source }
  | .offset =>
    (giveOnce given.offset (plainNumber option text)).map fun offset => { given with offset }
  | .method => (giveOnce given.method (.ok text)).map fun method => { given with method }
  | .declaringType =>
    (giveOnce given.declaringType (.ok text)).map fun declaringType =>
      { given with declaringType }
  | .namespaceName =>
    (giveOnce given.namespaceName (.ok text)).map fun namespaceName =>
      { given with namespaceName }
  | .parameter => .ok { given with parameters := given.parameters ++ [text] }
  | .returnType =>
    (giveOnce given.returnType (.ok text)).map fun returnType => { given with returnType }

/-- Asks for one line per segment, which can be done once. -/
def GivenOptions.giveSegments (given : GivenOptions) : Except UsageError GivenOptions :=
  if given.segments then .error .conflict else .ok { given with segments := true }

/-- An option whose value is still to come, or has come and is still to be read. -/
structure PendingOption where
  option : DescribeOption
  value : Option String
deriving DecidableEq, Repr

/-- Reads the value of the option that is pending, if there is one. -/
def GivenOptions.settle (given : GivenOptions) : Option PendingOption →
    Except UsageError GivenOptions
  | none => .ok given
  | some ⟨_, none⟩ => .error .missingValue
  | some ⟨option, some text⟩ => given.give option text

/-- Reads words from left to right; a value is read only when the next option or the end comes. -/
def GivenOptions.read (given : GivenOptions) (pending : Option PendingOption) :
    List String → Except UsageError GivenOptions
  | [] => given.settle pending
  | word :: rest =>
    match ArgumentWord.ofText word with
    | .endOfOptions => if rest = [] then given.settle pending else .error .unknownArgument
    | .long name attached =>
      match LongName.ofText? name, attached with
      | none, _ => .error .unknownArgument
      | some .help, some _ => .error .unexpectedValue
      | some .segments, some _ => .error .unexpectedValue
      | some .help, none => do
        let _ ← given.settle pending
        .error .helpShown
      | some .segments, none => do
        let settled ← given.settle pending
        let extended ← settled.giveSegments
        extended.read none rest
      | some (.valued option), some text => do
        let settled ← given.settle pending
        let extended ← settled.give option text
        extended.read none rest
      | some (.valued option), none => do
        let settled ← given.settle pending
        settled.read (some ⟨option, none⟩) rest
    | .short letter =>
      if letter = 'h' then do
        let _ ← given.settle pending
        .error .helpShown
      else .error .unknownArgument
    | .plain =>
      match pending with
      | some ⟨option, none⟩ => given.read (some ⟨option, some word⟩) rest
      | _ => .error .unknownArgument

/-- A position in a file and one by line and column exclude each other. -/
def GivenOptions.conflicting (given : GivenOptions) : Bool :=
  given.source.isSome && (given.line.isSome || given.column.isSome)

/-- An option is missing that is always needed, or that one of those given needs. -/
def GivenOptions.incomplete (given : GivenOptions) : Bool :=
  given.base.isNone ||
    (given.source.isSome && given.offset.isNone) ||
    -- The file of an offset is not missed where a line or a column excludes it anyway.
    (given.offset.isSome && given.source.isNone && given.line.isNone && given.column.isNone) ||
    ((!given.parameters.isEmpty || given.returnType.isSome) && given.method.isNone)

/-- The options of a command line, once they are known to go together. -/
def GivenOptions.ofArguments (arguments : List String) : Except UsageError GivenOptions := do
  let given ← GivenOptions.read {} none arguments
  if given.conflicting then .error .conflict
  else if given.incomplete then .error .missingOption
  else return given

end BreakpointGlyph
