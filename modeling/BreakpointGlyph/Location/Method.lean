import BreakpointGlyph.Numeral.Digits

/-! Methods as metadata names them: a module, a token in it, and the names of a signature. -/

namespace BreakpointGlyph

/-- A module, told apart from others of its name by how it came into being. -/
structure ModuleId where
  name : String
  dynamic : Bool
  inMemory : Bool
deriving DecidableEq, Repr

/-- A module loaded from a file. -/
def ModuleId.ofFile (name : String) : ModuleId :=
  ⟨name, false, false⟩

/-- A module made at run time, which is also in memory. -/
def ModuleId.ofDynamic (name : String) : ModuleId :=
  ⟨name, true, true⟩

/-- A module loaded from memory. -/
def ModuleId.ofMemory (name : String) : ModuleId :=
  ⟨name, false, true⟩

/-- A metadata token: a table in its top byte and a row in the rest. -/
structure MethodToken where
  value : UInt32
deriving DecidableEq, Repr

/-- The metadata table of a token. -/
def MethodToken.table (token : MethodToken) : UInt32 :=
  token.value >>> 24

/-- The row of a token in its table. -/
def MethodToken.row (token : MethodToken) : UInt32 :=
  token.value &&& 0xFFFFFF

/-- A token as shown: eight hexadecimal digits. -/
def MethodToken.text (token : MethodToken) : String :=
  hexText 8 token.value.toNat

/-- A method is identified by its module and its token there. -/
structure MethodId where
  module : ModuleId
  token : MethodToken
deriving DecidableEq, Repr

/-- An identity as shown: the name of the module and the token. -/
def MethodId.text (id : MethodId) : String :=
  id.module.name ++ "!" ++ id.token.text

/-- A parameter: the full name of its type and perhaps a name. -/
structure Parameter where
  typeName : String
  name : Option String
deriving DecidableEq, Repr

/-- A method with the names that its signature shows. -/
structure Method where
  id : MethodId
  namespaceName : String
  declaringType : String
  name : String
  parameters : List Parameter
  returnType : Option String
deriving DecidableEq, Repr

/-- The method with one more parameter, behind all that it has. -/
def Method.withParameter (method : Method) (parameter : Parameter) : Method :=
  { method with parameters := method.parameters ++ [parameter] }

/-- Instance and type constructors have reserved names. -/
def Method.isConstructor (method : Method) : Bool :=
  method.name == ".ctor" || method.name == ".cctor"

end BreakpointGlyph
