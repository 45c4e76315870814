import BreakpointGlyph.CommandLine.Command
import BreakpointGlyph.Text.Cut

/-! What the words of a command line say about each option, told without reading them in order. -/

namespace BreakpointGlyph

/-- The text that a word gives for an option: what the word has behind an equals sign, or otherwise
the next word. -/
def optionText? (option : DescribeOption) (word : String) (rest : List String) : Option String :=
  match cutAtFirst '=' word.toList with
  | some (name, text) =>
    if String.ofList name = "--" ++ option.name then some (String.ofList text) else none
  | none => if word = "--" ++ option.name then rest.head? else none

/-- The texts that the words of a command line give for an option, in order. -/
def givenTexts (option : DescribeOption) : List String → List String
  | [] => []
  | word :: rest => (optionText? option word rest).toList ++ givenTexts option rest

/-- The value of an option that can be given once: its default if there is no text for it, and what
its text reads as if there is one. -/
inductive Decoded {ε α : Type} (read : String → Except ε α) (default : α) :
    List String → α → Prop where
  | absent : Decoded read default [] default
  | given {text : String} {value : α} : read text = .ok value → Decoded read default [text] value

/-- The value of an option that can be given once and has no default. -/
def DecodedOnce {ε α : Type} (read : String → Except ε α) : List String → Option α → Prop :=
  Decoded (fun text => (read text).map some) none

/-- A text that stands for itself. -/
def readAsWritten (text : String) : Except NumeralError String :=
  .ok text

/-- A plain decimal number of 64 bits. -/
def readPlainNumber (text : String) : Except NumeralError Nat :=
  readNumeral 10 UInt64.size text.toList

/-- Every part of a request is what the words of a command line give for the option of that part. -/
structure DescribeRequest.Decodes (request : DescribeRequest) (words : List String) : Prop where
  module : Decoded readAsWritten "module.dll" (givenTexts .module words) request.module
  token : Decoded parseUInt32 0x06000001 (givenTexts .token words) request.token
  ilOffset : Decoded parseUInt32 0 (givenTexts .ilOffset words) request.ilOffset
  mapping : Decoded IlMapping.parse .exact (givenTexts .mapping words) request.mapping
  base : ∃ text, givenTexts .base words = [text] ∧ parseUInt64 text = .ok request.base
  nativeOffset : Decoded parseUInt64 0 (givenTexts .nativeOffset words) request.nativeOffset
  line : Decoded readPlainNumber 0 (givenTexts .line words) request.line
  column : Decoded readPlainNumber 0 (givenTexts .column words) request.column
  source : DecodedOnce readAsWritten (givenTexts .source words) request.source
  offset : DecodedOnce readPlainNumber (givenTexts .offset words) request.offset
  method : DecodedOnce readAsWritten (givenTexts .method words) request.method
  declaringType :
    Decoded readAsWritten "Program" (givenTexts .declaringType words) request.declaringType
  namespaceName : Decoded readAsWritten "" (givenTexts .namespaceName words) request.namespaceName
  parameters : request.parameters = givenTexts .parameter words
  returnType : DecodedOnce readAsWritten (givenTexts .returnType words) request.returnType
  segments : request.segments = true ↔ "--segments" ∈ words

/-- What the texts of an option make of it in the options that are given explicitly. -/
def GivenOptions.Matches (given : GivenOptions) (texts : List String) : DescribeOption → Prop
  | .module => DecodedOnce readAsWritten texts given.module
  | .token => DecodedOnce parseUInt32 texts given.token
  | .ilOffset => DecodedOnce parseUInt32 texts given.ilOffset
  | .mapping => DecodedOnce IlMapping.parse texts given.mapping
  | .base => DecodedOnce parseUInt64 texts given.base
  | .nativeOffset => DecodedOnce parseUInt64 texts given.nativeOffset
  | .line => DecodedOnce readPlainNumber texts given.line
  | .column => DecodedOnce readPlainNumber texts given.column
  | .source => DecodedOnce readAsWritten texts given.source
  | .offset => DecodedOnce readPlainNumber texts given.offset
  | .method => DecodedOnce readAsWritten texts given.method
  | .declaringType => DecodedOnce readAsWritten texts given.declaringType
  | .namespaceName => DecodedOnce readAsWritten texts given.namespaceName
  | .parameter => given.parameters = texts
  | .returnType => DecodedOnce readAsWritten texts given.returnType

end BreakpointGlyph
