import ScriptSemantics.Lookup.Operators
import ScriptSemantics.Session.Instantiation

/-!
# Name look-up

Resolving identifiers against a scope. A qualified name `A::B` resolves `A` to a namespace or type
and looks `B` up inside it only. A template-id instantiates a class template, or attaches explicit
arguments to a set of function templates; that is why look-up is an action on a session.
-/

namespace ScriptSemantics

namespace Lookup

/-- What a template-id means, given what its name means. -/
def applyArguments (base : LookupResult) (arguments : List TemplateArgument) :
    LookupM LookupResult := do
  match base with
  | .template hash =>
    let made ← instantiating (instantiateClass hash arguments)
    return .type (.simple made)
  | .functionSet _ templates _ =>
    if templates.isEmpty then return .unknown else return .functionSet [] templates arguments
  | _ => return .unknown

/-- A name that is no namespace, type or template still qualifies if a namespace of that name is
visible. -/
def asQualifier (r : Registry) (scope : Scope) (identifier : Identifier) (result : LookupResult) :
    LookupResult :=
  match result, identifier with
  | .space _, _ | .type _, _ | .template _, _ => result
  | _, .simple name =>
    match (r.scopeNodes scope).findSome? fun node => r.namespaces.child? node name with
    | some child => .space (r.namespaces.pathOf child)
    | none => .unknown
  | _, _ => .unknown

/-- A name inside a namespace. -/
def inSpace (r : Registry) (path name : String) : LookupResult :=
  match r.namespaces.getPath? path with
  | some node => r.inNamespaceOrImports node name
  | none => .unknown

/-- A name inside a type: a value of an enum, or a member of a class that needs no object. -/
def inType (r : Registry) (t : DataType) (name : String) : LookupResult :=
  match r.enum? t.typeHash with
  | some e =>
    match e.value? name with
    | some value => .enumValue e.hash value
    | none => .unknown
  | none => r.staticMember t.typeHash name

/-- A name inside a qualifier. -/
def inQualifier (r : Registry) (qualifier : LookupResult) (name : String) : LookupResult :=
  match qualifier with
  | .space path => inSpace r path name
  | .type t => inType r t name
  | _ => .unknown

/-- The operator functions inside a qualifier. -/
def operatorsInQualifier (r : Registry) (qualifier : LookupResult) (op : OperatorKind) :
    LookupResult :=
  match qualifier with
  | .space path =>
    match r.namespaces.getPath? path with
    | some node => .ofFunctions (r.operatorsIn op node) []
    | none => .unknown
  | .type t =>
    if (r.enum? t.typeHash).isSome then .unknown
    else .ofFunctions (r.memberOperators op t.typeHash) []
  | _ => .unknown

/-- Whether the qualifier is an enum, whose values take no template arguments. -/
def isEnumQualifier (r : Registry) : LookupResult → Bool
  | .type t => (r.enum? t.typeHash).isSome
  | _ => false

/-- Look an identifier up inside a resolved qualifier only. -/
def resolveIn (qualifier : LookupResult) : Identifier → LookupM LookupResult
  | .qualified inner last => do resolveIn (← resolveIn qualifier inner) last
  | .simple name => do return inQualifier (← get).registry qualifier name
  | .operator op => do return operatorsInQualifier (← get).registry qualifier op
  | .template name arguments => do
    let r := (← get).registry
    let base := inQualifier r qualifier name
    if isEnumQualifier r qualifier then return base else applyArguments base arguments

/-- Resolve an identifier as seen from a scope. An unknown name is a result; errors come from
instantiation. -/
def resolve (scope : Scope) : Identifier → LookupM LookupResult
  | .simple name => do return (← get).registry.lookupSimple scope name
  | .operator op => do
    let options := { useScope := true, removeDuplicates := true }
    return .ofFunctions ((← get).registry.operatorCandidates op [] scope options) []
  | .template name arguments => do
    applyArguments ((← get).registry.lookupSimple scope name) arguments
  | .qualified qualifier member => do
    let result ← resolve scope qualifier
    resolveIn (asQualifier (← get).registry scope qualifier result) member

/-- Resolve an identifier; an unknown name is an error. -/
def tryResolve (scope : Scope) (identifier : Identifier) : LookupM LookupResult := do
  match ← resolve scope identifier with
  | .unknown => throw (.unknownIdentifier identifier.text)
  | found => return found

end Lookup

end ScriptSemantics
