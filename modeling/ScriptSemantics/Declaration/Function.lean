import ScriptSemantics.Operator
import ScriptSemantics.Path
import ScriptSemantics.TemplateArgument

/-!
# Functions

A function declaration pairs a signature with what runs when it is called. The role of a function
(free function, constructor, cast, operator, template instance) is fixed when it is declared and
decides how its identity is computed. Parameter lists never include the implicit object.
-/

namespace ScriptSemantics

/-- Boolean traits of a function. -/
structure FunctionTraits where
  /-- A member callable on const objects. -/
  isConst : Bool := false
  /-- A member without an implicit object. -/
  isStatic : Bool := false
  /-- A constructor or cast that implicit conversions may not use. -/
  isExplicit : Bool := false
  /-- Declared but not callable. -/
  isDeleted : Bool := false
  isVirtual : Bool := false
  /-- An operator on fundamental types. -/
  isBuiltin : Bool := false
deriving DecidableEq, Inhabited, Repr

namespace FunctionTraits

/-- All traits of either side. -/
def union (a b : FunctionTraits) : FunctionTraits where
  isConst := a.isConst || b.isConst
  isStatic := a.isStatic || b.isStatic
  isExplicit := a.isExplicit || b.isExplicit
  isDeleted := a.isDeleted || b.isDeleted
  isVirtual := a.isVirtual || b.isVirtual
  isBuiltin := a.isBuiltin || b.isBuiltin

/-- Traits count 1, 2, 4, 8, 16 and 32 in the order of their declaration. -/
def toBits (t : FunctionTraits) : Nat :=
  (if t.isConst then 1 else 0) + (if t.isStatic then 2 else 0) + (if t.isExplicit then 4 else 0)
    + (if t.isDeleted then 8 else 0) + (if t.isVirtual then 16 else 0)
    + (if t.isBuiltin then 32 else 0)

/-- The trait of a keyword. -/
def ofKeyword? : String → Option FunctionTraits
  | "const" => some { isConst := true }
  | "static" => some { isStatic := true }
  | "explicit" => some { isExplicit := true }
  | "deleted" => some { isDeleted := true }
  | "virtual" => some { isVirtual := true }
  | "builtin" => some { isBuiltin := true }
  | _ => none

end FunctionTraits

/-- The role of a function. -/
inductive FunctionKind where
  | regular
  | constructor
  | destructor
  /-- A conversion operator to the function's return type. -/
  | cast
  | operator (op : OperatorKind)
  /-- An instance of a function template. -/
  | templateInstance (template : TypeHash) (arguments : List TemplateArgument)
deriving DecidableEq, Inhabited, Repr

/-- A declared parameter. -/
structure Param where
  name : String := ""
  dataType : DataType
  hasDefault : Bool := false
deriving DecidableEq, Inhabited, Repr

/-- What runs when a function is called. -/
inductive FunctionBody where
  /-- A callable of the host, if one is bound. -/
  | native (callable : Option Nat)
  /-- A compiled script body. -/
  | script (body : Nat)
  /-- The signature is known and the body is not there yet. -/
  | pending
deriving DecidableEq, Inhabited, Repr

/-- A function with its signature. -/
structure FunctionDecl where
  hash : TypeHash
  name : String
  /-- Path of the namespace it was declared in. -/
  path : String := ""
  kind : FunctionKind := .regular
  params : List Param := []
  returnType : DataType := .void
  /-- Owning class of members and constructors. -/
  owner : Option TypeHash := none
  traits : FunctionTraits := {}
  body : FunctionBody := .native none
deriving DecidableEq, Inhabited, Repr

namespace FunctionDecl

/-! ## Identity -/

/-- Identities of the parameter types. -/
def paramIdentities (params : List Param) : List TypeHash :=
  params.map fun p => p.dataType.identity

/-- The identity that the role, owner, name and signature of a function give it. -/
def identify (name path : String) (kind : FunctionKind) (owner : Option TypeHash)
    (params : List Param) (returnType : DataType) (traits : FunctionTraits) : TypeHash :=
  match kind, owner with
  | .constructor, some owner => .ofConstructor owner (paramIdentities params)
  | .cast, some owner =>
    .ofMethod owner ("$cast:" ++ returnType.typeHash.text) (paramIdentities params) true
  | .templateInstance template arguments, _ => .ofTemplateInstance template arguments
  | _, some owner => .ofMethod owner name (paramIdentities params) traits.isConst
  | _, none => .ofFunction (Path.qualify path name) (paramIdentities params)

/-- A function whose hash is its computed identity. -/
def declare (name path : String) (kind : FunctionKind) (owner : Option TypeHash)
    (params : List Param) (returnType : DataType) (traits : FunctionTraits := {}) :
    FunctionDecl where
  hash := identify name path kind owner params returnType traits
  name := name
  path := path
  kind := kind
  params := params
  returnType := returnType
  owner := owner
  traits := traits

/-! ## Declarations by role -/

/-- A free function. -/
def free (path name : String) (params : List Param) (returnType : DataType) : FunctionDecl :=
  declare name path .regular none params returnType

/-- A free operator function. -/
def freeOperator (path : String) (op : OperatorKind) (params : List Param)
    (returnType : DataType) : FunctionDecl :=
  declare op.text path (.operator op) none params returnType

/-- A method of `owner`. -/
def method (owner : TypeHash) (name : String) (params : List Param) (returnType : DataType) :
    FunctionDecl :=
  declare name "" .regular (some owner) params returnType

/-- A member operator of `owner`; the left operand is the implicit object. -/
def memberOperator (owner : TypeHash) (op : OperatorKind) (params : List Param)
    (returnType : DataType) : FunctionDecl :=
  declare op.text "" (.operator op) (some owner) params returnType

/-- A constructor of `owner`, which returns the class itself. -/
def constructor (owner : TypeHash) (params : List Param) : FunctionDecl :=
  declare "$ctor" "" .constructor (some owner) params (.simple owner)

/-- A conversion operator of `owner`. Casts are const unless changed later. -/
def cast (owner : TypeHash) (target : DataType) : FunctionDecl :=
  declare "$cast" "" .cast (some owner) [] target { isConst := true }

def destructor (owner : TypeHash) : FunctionDecl :=
  declare "$dtor" "" .destructor (some owner) [] .void

/-- An instance of a function template, identified by template and arguments. Its body comes
later. -/
def templateInstance (template : TypeHash) (arguments : List TemplateArgument)
    (name path : String) (owner : Option TypeHash) (params : List Param)
    (returnType : DataType) : FunctionDecl :=
  { declare name path (.templateInstance template arguments) owner params returnType with
    body := .pending }

/-- Add traits. A regular or operator member that becomes const gets the identity of a const
method. -/
def withTraits (f : FunctionDecl) (traits : FunctionTraits) : FunctionDecl :=
  let united := f.traits.union traits
  let hash :=
    if !f.traits.isConst && united.isConst then
      match f.owner, f.kind with
      | some owner, .regular | some owner, .operator _ =>
        .ofMethod owner f.name (paramIdentities f.params) true
      | _, _ => f.hash
    else f.hash
  { f with traits := united, hash := hash }

/-! ## Queries -/

/-- Number of arguments that must be given. Only a trailing run of defaults may be left out. -/
def minArgs (f : FunctionDecl) : Nat :=
  (f.params.reverse.dropWhile Param.hasDefault).length

/-- Number of arguments that may be given. -/
def maxArgs (f : FunctionDecl) : Nat := f.params.length

def isConst (f : FunctionDecl) : Bool := f.traits.isConst

def isExplicit (f : FunctionDecl) : Bool := f.traits.isExplicit

def isDeleted (f : FunctionDecl) : Bool := f.traits.isDeleted

def isConstructor (f : FunctionDecl) : Bool := f.kind == .constructor

def isCast (f : FunctionDecl) : Bool := f.kind == .cast

/-- Whether calls pass an implicit object. -/
def hasImplicitObject (f : FunctionDecl) : Bool :=
  f.owner.isSome && !f.traits.isStatic && !f.isConstructor

def operator? (f : FunctionDecl) : Option OperatorKind :=
  match f.kind with
  | .operator op => some op
  | _ => none

def isNative (f : FunctionDecl) : Bool :=
  match f.body with
  | .native _ => true
  | _ => false

def isPending (f : FunctionDecl) : Bool := f.body == .pending

/-- The type of the implicit object: a reference to the owner, const for const members. -/
def objectType (f : FunctionDecl) : DataType :=
  ⟨f.owner.getD .null, { isConst := f.isConst, isReference := true }⟩

/-- Same parameter types and same constness of the object. -/
def sameSignature (f g : FunctionDecl) : Bool :=
  f.isConst == g.isConst && f.params.map Param.dataType == g.params.map Param.dataType

end FunctionDecl

end ScriptSemantics
