/-! The options of the `describe` command, by name and by the placeholder of their value. -/

namespace BreakpointGlyph

/-- The options that take a value. -/
inductive DescribeOption where
  | module
  | token
  | ilOffset
  | mapping
  | base
  | nativeOffset
  | line
  | column
  | source
  | offset
  | method
  | declaringType
  | namespaceName
  | parameter
  | returnType
deriving DecidableEq, Repr

/-- All options that take a value. -/
def DescribeOption.all : List DescribeOption :=
  [.module, .token, .ilOffset, .mapping, .base, .nativeOffset, .line, .column, .source, .offset,
    .method, .declaringType, .namespaceName, .parameter, .returnType]

/-- The name of an option, which stands after two hyphens. -/
def DescribeOption.name : DescribeOption → String
  | .module => "module"
  | .token => "token"
  | .ilOffset => "il-offset"
  | .mapping => "mapping"
  | .base => "base"
  | .nativeOffset => "native-offset"
  | .line => "line"
  | .column => "column"
  | .source => "source"
  | .offset => "offset"
  | .method => "method"
  | .declaringType => "type"
  | .namespaceName => "namespace"
  | .parameter => "param"
  | .returnType => "returns"

/-- What stands for the value of an option in messages. -/
def DescribeOption.placeholder : DescribeOption → String
  | .module => "MODULE"
  | .token => "TOKEN"
  | .ilOffset => "IL_OFFSET"
  | .mapping => "MAPPING"
  | .base => "BASE"
  | .nativeOffset => "NATIVE_OFFSET"
  | .line => "LINE"
  | .column => "COLUMN"
  | .source => "SOURCE"
  | .offset => "OFFSET"
  | .method => "METHOD"
  | .declaringType => "DECLARING_TYPE"
  | .namespaceName => "NAMESPACE"
  | .parameter => "PARAMS"
  | .returnType => "RETURNS"

/-- What a name after two hyphens asks for. -/
inductive LongName where
  | valued (option : DescribeOption)
  | segments
  | help
deriving DecidableEq, Repr

/-- The meaning of a name after two hyphens, which is never abbreviated. -/
def LongName.ofText? (name : String) : Option LongName :=
  if name = "segments" then some .segments
  else if name = "help" then some .help
  else (DescribeOption.all.find? (·.name == name)).map .valued

end BreakpointGlyph
