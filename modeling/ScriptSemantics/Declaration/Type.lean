import ScriptSemantics.Declaration.Class

/-!
# Types

Every kind of type that can be registered. Function types, placeholders and patterns are
structural: two equal ones are the same type. A pattern is a dependent template-id such as
`List<T>` inside a template's signature.
-/

namespace ScriptSemantics

/-- An enumeration. Values of an unscoped one are visible in the enclosing namespace. -/
structure EnumDecl where
  name : String
  /-- Path of the namespace it was declared in. -/
  path : String := ""
  qualifiedName : String
  hash : TypeHash
  values : List (String × Int64) := []
  isScoped : Bool := false
deriving DecidableEq, Inhabited, Repr

namespace EnumDecl

/-- An enumeration identified by its qualified name. -/
def declare (path name : String) (values : List (String × Int64)) (isScoped : Bool) :
    EnumDecl where
  name := name
  path := path
  qualifiedName := Path.qualify path name
  hash := .ofName (Path.qualify path name)
  values := values
  isScoped := isScoped

/-- The number of the first value called `name`. -/
def value? (e : EnumDecl) (name : String) : Option Int64 := e.values.lookup name

end EnumDecl

/-- A function type. Its components may mention placeholders. -/
structure FunctionType where
  hash : TypeHash
  returnType : DataType
  params : List DataType
deriving DecidableEq, Inhabited, Repr

/-- The function type with these components, identified by them. -/
def FunctionType.of (returnType : DataType) (params : List DataType) : FunctionType where
  hash := .ofFunctionType returnType.identity (params.map DataType.identity)
  returnType := returnType
  params := params

/-- The type of a lambda expression. -/
structure ClosureDecl where
  hash : TypeHash
  name : String
  captures : List TypedName := []
deriving DecidableEq, Inhabited, Repr

/-- A closure identified by its name. -/
def ClosureDecl.declare (name : String) (captures : List TypedName) : ClosureDecl where
  hash := .ofName ("$closure:" ++ name)
  name := name
  captures := captures

/-- The placeholder type of a template parameter. -/
structure Placeholder where
  hash : TypeHash
  name : String
  /-- The template that declares the parameter. -/
  owner : TypeHash
  index : Nat
  kind : TemplateParamKind
deriving DecidableEq, Inhabited, Repr

/-- A dependent template-id. -/
structure Pattern where
  hash : TypeHash
  template : TypeHash
  arguments : List TemplateArgument
deriving DecidableEq, Inhabited, Repr

/-- The template-id of these components, identified the way an instance would be. -/
def Pattern.of (template : TypeHash) (arguments : List TemplateArgument) : Pattern where
  hash := .ofTemplateInstance template arguments
  template := template
  arguments := arguments

/-- A registered type. -/
inductive TypeDecl where
  | fundamental (kind : FundamentalKind)
  | classType (decl : ClassDecl)
  | enumType (decl : EnumDecl)
  | functionType (decl : FunctionType)
  | closure (decl : ClosureDecl)
  | placeholder (decl : Placeholder)
  | pattern (decl : Pattern)
deriving DecidableEq, Inhabited, Repr

namespace TypeDecl

def hash : TypeDecl → TypeHash
  | fundamental kind => kind.hash
  | classType c => c.hash
  | enumType e => e.hash
  | functionType f => f.hash
  | closure c => c.hash
  | placeholder p => p.hash
  | pattern p => p.hash

/-- The unqualified name. Function types and patterns have none. -/
def name? : TypeDecl → Option String
  | fundamental kind => some kind.keyword
  | classType c => some c.name
  | enumType e => some e.name
  | closure c => some c.name
  | placeholder p => some p.name
  | functionType _ | pattern _ => none

/-- Whether equal declarations are one type. -/
def isStructural : TypeDecl → Bool
  | functionType _ | placeholder _ | pattern _ => true
  | _ => false

/-- Enums, closures and function types: values that are copied as they are and never built from
a brace list. -/
def isAtomicValue : TypeDecl → Bool
  | enumType _ | closure _ | functionType _ => true
  | _ => false

/-- Placeholders and patterns, which are never the type of a value. -/
def isDependent : TypeDecl → Bool
  | placeholder _ | pattern _ => true
  | _ => false

def fundamental? : TypeDecl → Option FundamentalKind
  | fundamental kind => some kind
  | _ => none

def class? : TypeDecl → Option ClassDecl
  | classType c => some c
  | _ => none

def enum? : TypeDecl → Option EnumDecl
  | enumType e => some e
  | _ => none

def functionType? : TypeDecl → Option FunctionType
  | functionType f => some f
  | _ => none

def closure? : TypeDecl → Option ClosureDecl
  | closure c => some c
  | _ => none

def placeholder? : TypeDecl → Option Placeholder
  | placeholder p => some p
  | _ => none

end TypeDecl

end ScriptSemantics
