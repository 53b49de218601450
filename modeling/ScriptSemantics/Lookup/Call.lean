import ScriptSemantics.Lookup.Names
import ScriptSemantics.Session.FunctionTemplate

/-!
# Calls by name

A call resolves its callee, adds the instances that the function templates in the set would give,
and resolves the overloads. Templates whose deduction or substitution fails drop out. The signatures
declared for ranking are taken out again, and only the winner's body is compiled. A name that means
a class calls its constructors.
-/

namespace ScriptSemantics

/-- Makes the instance of a function template for explicit arguments. -/
abbrev FunctionInstantiator := TypeHash → List TemplateArgument → InstantiationM TypeHash

/-- The functions, the templates and the explicit template arguments that a callee stands for. -/
structure Callees where
  functions : List TypeHash := []
  templates : List TypeHash := []
  explicit : List TemplateArgument := []
deriving DecidableEq, Inhabited, Repr

/-- A signature declared for one call. -/
structure DeclaredSignature where
  template : TypeHash
  function : TypeHash
  arguments : List TemplateArgument
deriving DecidableEq, Inhabited, Repr

/-- The instances of the templates of a call: candidates to add, signatures among them that were
declared for this call, and templates left out. -/
structure DeclaredCandidates where
  functions : List TypeHash := []
  signatures : List DeclaredSignature := []
  rejected : List (TypeHash × TemplateError) := []
deriving DecidableEq, Inhabited, Repr

namespace Lookup

/-- What the result of look-up offers to a call. -/
def callees (r : Registry) (callee : Identifier) : LookupResult → Except SemanticError Callees
  | .functionSet functions templates explicit => .ok { functions, templates, explicit }
  | .type t =>
    if (r.class? t.typeHash).isSome then
      .ok { functions := (r.constructors t.typeHash).map FunctionDecl.hash }
    else .error (.notCallable callee.text)
  | .unknown => .error (.unknownIdentifier callee.text)
  | _ => .error (.notCallable callee.text)

/-- Declare the instances of templates for a call, in order. -/
def declareAll (explicit : List TemplateArgument) (types : List DataType) :
    List TypeHash → LookupM DeclaredCandidates
  | [] => return {}
  | template :: templates => do
    let outcome ← attempt (declareInstance template explicit types)
    let rest ← declareAll explicit types templates
    match outcome with
    | .ok (.existing function) => return { rest with functions := function :: rest.functions }
    | .ok (.signature function arguments) =>
      return { rest with
        functions := function :: rest.functions
        signatures := { template, function, arguments } :: rest.signatures }
    | .error e => return { rest with rejected := (template, e) :: rest.rejected }

/-- Take declared signatures out of the registry. -/
def withdraw (s : Session) (signatures : List DeclaredSignature) : Session :=
  { s with
    registry := signatures.foldl (fun r d => (r.removeFunction d.function).2) s.registry }

/-- Rank the candidates of a call. If the winner is a signature that was declared for this call, it
is returned along, for its body to be compiled. -/
def rankCall (callee : Identifier) (scope : Scope) (arguments : Arguments)
    (object : ImplicitObject) : LookupM (CallResolution × Option DeclaredSignature) := do
  let found ← resolve scope callee
  let callees ← ofExcept (callees (← get).registry callee found)
  let declared ← declareAll callees.explicit arguments.dataTypes callees.templates
  let resolution := Resolution.resolve (← get).registry object
    (callees.functions ++ declared.functions) arguments
  modify fun s => withdraw s declared.signatures
  return ({ resolution, rejected := declared.rejected },
    declared.signatures.find? fun d => resolution.selected? == some d.function)

/-- Resolve a call, with a given way to instantiate the function template that wins. -/
def resolveCallWith (instantiate : FunctionInstantiator) (callee : Identifier) (scope : Scope)
    (arguments : Arguments) (object : ImplicitObject) : LookupM CallResolution := do
  let (call, winner?) ← rankCall callee scope arguments object
  match winner? with
  | some winner => discard (instantiating (instantiate winner.template winner.arguments))
  | none => pure ()
  return call

end Lookup

end ScriptSemantics
