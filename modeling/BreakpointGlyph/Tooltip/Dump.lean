import BreakpointGlyph.Text.Quoted
import BreakpointGlyph.Tooltip.Statement

/-! Dumps of values for diagnostics: every part with its name, and texts in quotes. -/

namespace BreakpointGlyph

/-- A named group of parts between braces. -/
def dumpGroup (name : String) (parts : List (String × String)) : String :=
  name ++ " \x7b " ++ ", ".intercalate (parts.map fun part => part.1 ++ ": " ++ part.2) ++ " \x7d"

/-- The parts of a list between brackets. -/
def dumpList (items : List String) : String :=
  "[" ++ ", ".intercalate items ++ "]"

/-- A text that may be missing. -/
def dumpOption (text : Option String) : String :=
  match text with
  | some text => "Some(" ++ quote text ++ ")"
  | none => "None"

/-- The dump of a module. -/
def ModuleId.dump (module : ModuleId) : String :=
  dumpGroup "ModuleId"
    [("name", quote module.name), ("dynamic", toString module.dynamic),
      ("in_memory", toString module.inMemory)]

/-- The dump of a method's identity; its token is a decimal number. -/
def MethodId.dump (id : MethodId) : String :=
  dumpGroup "ModuleTokenId"
    [("module", id.module.dump), ("token", "MethodToken(" ++ id.token.value.toNat.repr ++ ")")]

/-- The dump of a parameter. -/
def Parameter.dump (parameter : Parameter) : String :=
  dumpGroup "ParameterRef"
    [("type_name", quote parameter.typeName), ("name", dumpOption parameter.name)]

/-- The dump of a method. -/
def Method.dump (method : Method) : String :=
  dumpGroup "MethodRef"
    [("id", method.id.dump), ("namespace", quote method.namespaceName),
      ("declaring_type", quote method.declaringType), ("name", quote method.name),
      ("parameters", dumpList (method.parameters.map Parameter.dump)),
      ("return_type", dumpOption method.returnType)]

/-- The dump of a statement; the offsets that it covers are a closed range. -/
def MethodStatement.dump (statement : MethodStatement) : String :=
  dumpGroup "MethodStatement"
    [("method", statement.method.dump),
      ("il_span", statement.first.toNat.repr ++ "..=" ++ statement.last.toNat.repr)]

/-- The dump of a statement map; its decompiler is shown by name. -/
def StatementMap.dump (map : StatementMap) : String :=
  dumpGroup "StatementMap"
    [("statements", dumpList (map.statements.map MethodStatement.dump)),
      ("decompiler", dumpOption (map.decompiler.map Decompiler.name))]

/-- The dump of a decompiler service, whose decompiler is shown by name. -/
def DecompilerService.dump (service : DecompilerService) : String :=
  dumpGroup "StaticDecompilerService" [("decompiler", quote service.defaultDecompiler.name)]

/-- The dump of a registry, which tells only how many formatters it has. -/
def dumpRegistry (formatters : Nat) : String :=
  dumpGroup "GlyphFormatterRegistry" [("formatters", formatters.repr)]

end BreakpointGlyph
