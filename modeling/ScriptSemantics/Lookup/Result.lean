import ScriptSemantics.Registry.Hierarchy
import ScriptSemantics.Scope.Basic

/-!
# What names refer to

The results of name look-up, and the parts of look-up that only read declarations: members of a
class, names of a namespace, names of a scope level.

Within a namespace the order is types, enum values, child namespaces, function sets, class
templates, variables. Within a class it is data members, then static members, nested types and
methods, each searched along the whole base chain.
-/

namespace ScriptSemantics

/-- What a name refers to. -/
inductive LookupResult where
  | unknown
  /-- Overloads that share a name. Explicit template arguments go to the templates only. -/
  | functionSet (functions templates : List TypeHash) (explicit : List TemplateArgument)
  /-- A class template without arguments. -/
  | template (hash : TypeHash)
  | type (dataType : DataType)
  /-- A template parameter bound to a value. -/
  | boundValue (dataType : DataType) (value : TemplateArgument)
  /-- A non-static data member; the index counts from the members of the root base. -/
  | dataMember (owner : TypeHash) (index : Nat) (dataType : DataType)
  | staticMember (owner : TypeHash) (dataType : DataType)
  | global (hash : TypeHash) (dataType : DataType)
  | localVariable (slot : Nat) (dataType : DataType)
  | enumValue (enumType : TypeHash) (value : Int64)
  | space (path : String)
  | capture (closure : TypeHash) (index : Nat) (dataType : DataType)
deriving DecidableEq, Inhabited, Repr

namespace LookupResult

def isUnknown (result : LookupResult) : Bool := result == .unknown

/-- The type of a result that stands for a value or a type. -/
def dataType? : LookupResult → Option DataType
  | type t | boundValue t _ | dataMember _ _ t | staticMember _ t | global _ t
  | localVariable _ t | capture _ _ t => some t
  | enumValue enumType _ => some (.simple enumType)
  | unknown | functionSet .. | template _ | space _ => none

/-- A set of overloads; nothing if it is empty. -/
def ofFunctions (functions templates : List TypeHash) : LookupResult :=
  if functions.isEmpty && templates.isEmpty then unknown else functionSet functions templates []

/-- The first of two results that is known. -/
def orElse (first : LookupResult) (second : Unit → LookupResult) : LookupResult :=
  if first.isUnknown then second () else first

/-- The first known result for some places. -/
def firstKnown {α : Type} (search : α → LookupResult) : List α → LookupResult
  | [] => unknown
  | place :: places => (search place).orElse fun _ => firstKnown search places

/-- What a bound template parameter means: its type, or a const value. -/
def ofArgument : TemplateArgument → LookupResult
  | .type t => type t
  | .bool value => boundValue (.constant FundamentalKind.bool.hash) (.bool value)
  | .integer value => boundValue (.constant FundamentalKind.int.hash) (.integer value)

end LookupResult

namespace Registry

/-! ## Members of classes -/

/-- The data member `name` of the most derived class that has one. Members of bases come first in
the layout. -/
def dataMember (name : String) : List (TypeHash × ClassDecl) → LookupResult
  | [] => .unknown
  | (hash, c) :: bases =>
    match TypedName.find? c.members name with
    | some (index, t) =>
      .dataMember hash ((bases.flatMap fun base => base.2.members).length + index) t
    | none => dataMember name bases

/-- The static data member `name` of one class. -/
def staticMemberOf (name : String) : TypeHash × ClassDecl → LookupResult
  | (hash, c) =>
    match TypedName.find? c.statics name with
    | some (_, t) => .staticMember hash t
    | none => .unknown

/-- The type `name` nested in one class. -/
def nestedTypeOf (r : Registry) (name : String) : TypeHash × ClassDecl → LookupResult
  | (_, c) =>
    match c.nested.find? fun h => (r.type? h).bind TypeDecl.name? == some name with
    | some h => .type (.simple h)
    | none => .unknown

/-- The methods and member templates `name` of one class. -/
def methodsOf (r : Registry) (name : String) : TypeHash × ClassDecl → LookupResult
  | (hash, c) =>
    .ofFunctions
      (((r.methods hash).filter fun f => f.name == name).map FunctionDecl.hash)
      (c.memberTemplates.filter fun t => (r.functionTemplate? t).any fun e => e.name == name)

/-- A member that needs no object. Methods of the most derived class that declares the name hide
those of its bases. -/
def staticMember (r : Registry) (hash : TypeHash) (name : String) : LookupResult :=
  let classes := r.chainClasses hash
  (LookupResult.firstKnown (staticMemberOf name) classes).orElse fun _ =>
    (LookupResult.firstKnown (r.nestedTypeOf name) classes).orElse fun _ =>
      LookupResult.firstKnown (r.methodsOf name) classes

/-- The member `name` of a class or one of its bases. -/
def member (r : Registry) (hash : TypeHash) (name : String) : LookupResult :=
  (dataMember name (r.chainClasses hash)).orElse fun _ => r.staticMember hash name

/-! ## Names of namespaces -/

/-- The name in a table of one namespace. -/
def nameIn (r : Registry) (node : Nat) (names : NamespaceNames) (name : String) : LookupResult :=
  match names.types.get? name with
  | some hash => .type (.simple hash)
  | none =>
    match names.enumValues.get? name with
    | some (enumType, value) => .enumValue enumType value
    | none =>
      match r.namespaces.child? node name with
      | some child => .space (r.namespaces.pathOf child)
      | none =>
        (LookupResult.ofFunctions ((names.functions.get? name).getD [])
          ((names.functionTemplates.get? name).getD [])).orElse fun _ =>
          match names.classTemplates.get? name with
          | some hash => .template hash
          | none =>
            match (names.globals.get? name).bind r.global? with
            | some g => .global g.hash g.dataType
            | none => .unknown

/-- A name declared directly in a namespace. -/
def inNamespace (r : Registry) (node : Nat) (name : String) : LookupResult :=
  match r.namespaces.names? node with
  | some names => r.nameIn node names name
  | none => .unknown

/-- A name declared in a namespace, else in one that it imports. -/
def inNamespaceOrImports (r : Registry) (node : Nat) (name : String) : LookupResult :=
  (r.inNamespace node name).orElse fun _ =>
    LookupResult.firstKnown (fun imported => r.inNamespace imported name)
      (r.namespaces.imports node)

/-! ## Names of scopes -/

/-- A name declared at one level of a scope. -/
def atLevel (r : Registry) (name : String) : ScopeLevel → LookupResult
  | .block block =>
    match block.locals.get? name with
    | some v => .localVariable v.slot v.dataType
    | none => .unknown
  | .lambda closure =>
    match (r.type? closure).bind TypeDecl.closure? with
    | some c =>
      match TypedName.find? c.captures name with
      | some (index, t) => .capture closure index t
      | none => .unknown
    | none => .unknown
  | .classBody hash => r.member hash name
  | .templateArguments bindings =>
    match bindings.lookup name with
    | some argument => .ofArgument argument
    | none => .unknown
  | .space path =>
    match r.namespaces.getPath? path with
    | some node => r.inNamespace node name
    | none => .unknown

/-- The type that a keyword names. -/
def keywordType? (name : String) : Option DataType :=
  match FundamentalKind.ofKeyword? name with
  | some kind => some (.ofKind kind)
  | none => if name == "auto" then some (.simple .auto) else none

/-- The existing namespaces of a scope, innermost first. -/
def scopeNodes (r : Registry) (scope : Scope) : List Nat :=
  scope.namespaces.filterMap r.namespaces.getPath?

/-- A simple name as seen from a scope: keywords, then the innermost level that declares it, then
the namespaces imported into those of the scope. -/
def lookupSimple (r : Registry) (scope : Scope) (name : String) : LookupResult :=
  match keywordType? name with
  | some t => .type t
  | none =>
    (LookupResult.firstKnown (r.atLevel name) scope.levels).orElse fun _ =>
      LookupResult.firstKnown (fun imported => r.inNamespace imported name)
        ((r.scopeNodes scope).flatMap r.namespaces.imports)

end Registry

end ScriptSemantics
