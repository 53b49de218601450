import ScriptSemantics.Session.Substitution

/-!
# Function templates of a session

Deducing and completing the arguments of a function template, and its signature for an argument
list. A call needs signatures only to rank candidates, so `declareInstance` registers the signature
and leaves the body to whoever wins.
-/

namespace ScriptSemantics

/-- A function template instance offered to overload resolution. -/
inductive DeclaredInstance where
  /-- Registered already: compiled, or being compiled further out. -/
  | existing (function : TypeHash)
  /-- A signature registered for ranking only. -/
  | signature (function : TypeHash) (arguments : List TemplateArgument)
deriving DecidableEq, Inhabited, Repr

def DeclaredInstance.function : DeclaredInstance → TypeHash
  | existing function | signature function _ => function

/-- The function template of this identity. -/
def functionTemplate (template : TypeHash) : InstantiationM FunctionTemplate := do
  match (← get).registry.functionTemplate? template with
  | some t => return t
  | none => throw (.unknownTemplate template)

/-- Deduce the arguments that are not given explicitly from the types of a call. -/
def deduceArguments (template : TypeHash) (explicit : List TemplateArgument)
    (types : List DataType) : InstantiationM (List Deduction) := do
  let t ← functionTemplate template
  let registry := (← get).registry
  ofExcept (({ registry, template } : CompletionContext).checkCount t.params explicit)
  let ctx : DeductionContext := { registry, template, explicit := explicit.length }
  ofExcept (ctx.deduce (t.signature.map Param.dataType) types)

/-- The full argument list from explicit arguments, deductions and defaults. -/
def completeArguments (template : TypeHash) (explicit : List TemplateArgument)
    (deductions : List Deduction) : InstantiationM (List TemplateArgument) := do
  let t ← functionTemplate template
  let ctx : CompletionContext := { registry := (← get).registry, template, path := t.path }
  ofExcept (ctx.complete t.params explicit deductions)

/-- Let the host adjust a substituted signature. -/
def adjustSignature (t : FunctionTemplate) (arguments : List TemplateArgument)
    (f : FunctionDecl) : InstantiationM FunctionDecl := do
  match t.backend with
  | .native { adjust? := some adjust, .. } =>
    modify (·.record (.adjusted f.hash arguments))
    ofHost t.hash (adjust arguments f)
  | _ => return f

/-- The concrete signature of a template for a complete argument list. -/
def instanceSignature (t : FunctionTemplate) (arguments : List TemplateArgument) :
    InstantiationM FunctionDecl := do
  let map := Substitution.ofArguments t.params arguments
  let params ← map.params t.signature
  let returnType ← map.type t.returnType
  adjustSignature t arguments
    (.templateInstance t.hash arguments t.name t.path t.owner params returnType)

/-- The concrete signature of `template<arguments>`, neither registered nor compiled. -/
def substituteTemplate (template : TypeHash) (arguments : List TemplateArgument) :
    InstantiationM FunctionDecl := do
  instanceSignature (← functionTemplate template) arguments

/-- Make the instance that a call would use visible to overload resolution. -/
def declareInstance (template : TypeHash) (explicit : List TemplateArgument)
    (types : List DataType) : InstantiationM DeclaredInstance := do
  let deductions ← deduceArguments template explicit types
  let arguments ← completeArguments template explicit deductions
  match (← get).functionInstances.get? { template, arguments } with
  | some function => return .existing function
  | none =>
    let f ← substituteTemplate template arguments
    if ((← get).registry.function? f.hash).isSome then return .existing f.hash
    discard (registering template (Registry.registerFunction f))
    return .signature f.hash arguments

end ScriptSemantics
