import ScriptSemantics.Declaration.Global
import ScriptSemantics.Declaration.Template
import ScriptSemantics.Namespace.Tree

/-!
# The registry

Storage for every type, function, template and variable of a program. Declarations are kept by
identity; classes and namespaces refer to them by identity only.
-/

namespace ScriptSemantics

/-- All declarations of a program. -/
structure Registry where
  types : Table TypeHash TypeDecl := {}
  functions : Table TypeHash FunctionDecl := {}
  functionTemplates : Table TypeHash FunctionTemplate := {}
  classTemplates : Table TypeHash ClassTemplate := {}
  globals : Table TypeHash GlobalDecl := {}
  /-- Operators on fundamental types, which belong to no namespace. -/
  builtinOperators : Table OperatorKind (List TypeHash) := {}
  namespaces : NamespaceTree := {}
deriving Inhabited

namespace Registry

/-! ## Look-up by identity -/

def type? (r : Registry) (hash : TypeHash) : Option TypeDecl := r.types.get? hash

def class? (r : Registry) (hash : TypeHash) : Option ClassDecl :=
  (r.type? hash).bind TypeDecl.class?

def enum? (r : Registry) (hash : TypeHash) : Option EnumDecl :=
  (r.type? hash).bind TypeDecl.enum?

def function? (r : Registry) (hash : TypeHash) : Option FunctionDecl := r.functions.get? hash

def functionTemplate? (r : Registry) (hash : TypeHash) : Option FunctionTemplate :=
  r.functionTemplates.get? hash

def classTemplate? (r : Registry) (hash : TypeHash) : Option ClassTemplate :=
  r.classTemplates.get? hash

def global? (r : Registry) (hash : TypeHash) : Option GlobalDecl := r.globals.get? hash

/-- The built-in functions of an operator. -/
def builtins (r : Registry) (op : OperatorKind) : List TypeHash :=
  (r.builtinOperators.get? op).getD []

/-! ## Classification of data types

Arrays are values of their own: no array is a fundamental, class, enum or list value. -/

def isRegistered (r : Registry) (t : DataType) : Bool := (r.type? t.typeHash).isSome

/-- The fundamental kind of a type. -/
def fundamental? (r : Registry) (t : DataType) : Option FundamentalKind :=
  if t.isArray then none else (r.type? t.typeHash).bind TypeDecl.fundamental?

def isClass (r : Registry) (t : DataType) : Bool :=
  !t.isArray && (r.class? t.typeHash).isSome

def isEnum (r : Registry) (t : DataType) : Bool :=
  !t.isArray && (r.enum? t.typeHash).isSome

/-- Values that only convert to themselves (enums also to `int`) and reject brace lists. -/
def isAtomicValue (r : Registry) (t : DataType) : Bool :=
  !t.isArray && ((r.type? t.typeHash).any TypeDecl.isAtomicValue)

end Registry

end ScriptSemantics
