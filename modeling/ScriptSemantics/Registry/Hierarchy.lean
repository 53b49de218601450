import ScriptSemantics.Registry.Basic

/-!
# Class structure

Base chains, member functions of a class, copy and default construction, and the built-in list
type.

A base chain never visits a class twice, so it ends on cyclic hierarchies too and is no longer than
the number of registered types.
-/

namespace ScriptSemantics.Registry

/-! ## Inheritance -/

/-- The chain from `hash` on, at most `limit` long and without the classes in `visited`. -/
def chainFrom (r : Registry) : (limit : Nat) → (visited : List TypeHash) → TypeHash → List TypeHash
  | 0, _, _ => []
  | limit + 1, visited, hash =>
    if hash ∈ visited then []
    else
      match r.class? hash with
      | none => []
      | some c =>
        hash :: match c.base with
          | none => []
          | some base => r.chainFrom limit (hash :: visited) base

/-- A class, its base, the base of that, and so on. -/
def baseChain (r : Registry) (hash : TypeHash) : List TypeHash :=
  r.chainFrom r.types.size [] hash

/-- The classes of a base chain with their identities, most derived first. -/
def chainClasses (r : Registry) (hash : TypeHash) : List (TypeHash × ClassDecl) :=
  (r.baseChain hash).filterMap fun h => (r.class? h).map fun c => (h, c)

/-- Number of inheritance steps from `derived` up to `base`; zero for the class itself. -/
def inheritanceDepth? (r : Registry) (derived base : TypeHash) : Option Nat :=
  (r.baseChain derived).findIdx? fun hash => hash == base

/-! ## Member functions -/

/-- The registered functions among some identities. -/
def registered (r : Registry) (hashes : List TypeHash) : List FunctionDecl :=
  hashes.filterMap r.function?

/-- The registered constructors of a class, in declaration order. -/
def constructors (r : Registry) (hash : TypeHash) : List FunctionDecl :=
  r.registered ((r.class? hash).elim [] ClassDecl.constructors)

/-- The registered conversion operators of a class, in declaration order. -/
def casts (r : Registry) (hash : TypeHash) : List FunctionDecl :=
  r.registered ((r.class? hash).elim [] ClassDecl.casts)

/-- The registered methods and member operators of a class, in declaration order. -/
def methods (r : Registry) (hash : TypeHash) : List FunctionDecl :=
  r.registered ((r.class? hash).elim [] ClassDecl.methods)

/-! ## Construction -/

/-- Whether a function takes exactly one value of the class `hash`. -/
def takesOnly (hash : TypeHash) (f : FunctionDecl) : Bool :=
  match f.params with
  | [param] => param.dataType.base == .simple hash
  | _ => false

/-- The declared copy constructor of a class. -/
def copyConstructor? (r : Registry) (hash : TypeHash) : Option FunctionDecl :=
  (r.constructors hash).find? (takesOnly hash)

/-- A class is copied unless it is flagged against it or its copy constructor is deleted. -/
def isCopyConstructible (r : Registry) (hash : TypeHash) : Bool :=
  match r.class? hash with
  | none => false
  | some c =>
    !c.flags.isNonCopyable && (r.copyConstructor? hash).all fun f => !f.isDeleted

/-- The constructor that runs without arguments. -/
def defaultConstructor? (r : Registry) (hash : TypeHash) : Option FunctionDecl :=
  (r.constructors hash).find? fun f => f.minArgs == 0 && !f.isDeleted

/-- A class without declared constructors is default constructible. -/
def isDefaultConstructible (r : Registry) (hash : TypeHash) : Bool :=
  match r.class? hash with
  | none => false
  | some c => c.constructors.isEmpty || (r.defaultConstructor? hash).isSome

/-! ## The built-in list type -/

/-- Whether a type is an instance of the built-in list template. -/
def isListType (r : Registry) (hash : TypeHash) : Bool :=
  (r.class? hash).any fun c => c.isInstanceOf .initializerListTemplate

/-- The element type of an instance of the built-in list template. -/
def listElementOf? (r : Registry) (hash : TypeHash) : Option DataType :=
  match r.class? hash with
  | none => none
  | some c =>
    if c.isInstanceOf .initializerListTemplate then c.templateArgs.head?.bind TemplateArgument.type?
    else none

/-- The element type of a list value. -/
def listElement? (r : Registry) (t : DataType) : Option DataType :=
  if t.isArray then none else r.listElementOf? t.typeHash

end ScriptSemantics.Registry
