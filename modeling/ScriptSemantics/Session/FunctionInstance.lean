import ScriptSemantics.Lookup.Call

/-!
# Function instances

Instances of function templates with their bodies. An instance is registered with its signature
before its body is produced, so that the body may refer to it. Native templates get their body from
the host; script templates through the session's body compiler, whose plan may request further
instances and calls. An instance whose body fails is taken out again.

Requests nest at most as deep as the session allows, and that is what the recursion is bounded by.
-/

namespace ScriptSemantics

/-! ## Bodies -/

/-- Carry out the plan of a body compiler. -/
def runPlan (instantiate : FunctionInstantiator) : BodyPlan → InstantiationM FunctionBody
  | .finish body => return body
  | .fail e => throw e
  | .instantiateFunction template arguments next => do
    let outcome ← attempt (instantiate template arguments)
    runPlan instantiate (next outcome)
  | .instantiateClass template arguments next => do
    let outcome ← attempt (instantiateClass template arguments)
    runPlan instantiate (next outcome)
  | .resolveCall callee scope arguments object next => do
    let outcome ← attempt (Lookup.resolveCallWith instantiate callee scope arguments object)
    if let .ok call := outcome then
      modify (·.record (.called call.resolution.selected?))
    runPlan instantiate (next outcome)

/-- Produce the body of a registered instance. -/
def produceBody (instantiate : FunctionInstantiator) (t : FunctionTemplate)
    (arguments : List TemplateArgument) (f : FunctionDecl) : InstantiationM FunctionBody := do
  match t.backend with
  | .native hooks =>
    modify (·.record (.produced f.hash arguments))
    ofHost t.hash (hooks.produce arguments f)
  | .script body =>
    let s ← get
    match s.bodyCompiler with
    | none => throw (.noBodyCompiler t.hash)
    | some compile =>
      set (s.record (.compiled body t.hash f.hash arguments s.depth))
      runPlan instantiate
        (compile { template := t.hash, body, arguments, function := f, depth := s.depth })

/-- Register the signature of an instance, whose body comes later. -/
def registerSignature (t : FunctionTemplate) (arguments : List TemplateArgument) :
    InstantiationM FunctionDecl := do
  let f ← instanceSignature t arguments
  discard (registering t.hash (Registry.registerFunction f))
  return f

/-- Attach the body of a registered instance. Where there is none the instance is taken out. -/
def attachBody (t : FunctionTemplate) (f : FunctionDecl) :
    Except TemplateError FunctionBody → InstantiationM TypeHash
  | .ok body => do
    registering t.hash (Registry.updateFunction { f with body := body })
    return f.hash
  | .error e => do
    modify fun s => { s with registry := (s.registry.removeFunction f.hash).2 }
    throw e

/-- Build an instance: substitute the signature, register it, produce the body and attach it. -/
def buildFunction (instantiate : FunctionInstantiator) (t : FunctionTemplate)
    (arguments : List TemplateArgument) : InstantiationM TypeHash := do
  let f ← registerSignature t arguments
  attachBody t f (← attempt (produceBody instantiate t arguments f))

/-! ## Instances -/

/-- The instance of a function template where `levels` more instantiations may nest. -/
def instantiateFunctionWithin : (levels : Nat) → FunctionInstantiator
  | levels, template, explicit => do
    let t ← functionTemplate template
    let arguments ← completeArguments template explicit []
    instantiateOnce .function { template, arguments }
      (match levels with
        | 0 => do throw (.depthLimitExceeded template (← get).maxDepth)
        | levels + 1 => buildFunction (instantiateFunctionWithin levels) t arguments)

/-- The instance of a function template for explicit arguments. Trailing parameters with defaults
may be left out. -/
def instantiateFunction (template : TypeHash) (explicit : List TemplateArgument) :
    InstantiationM TypeHash := do
  let s ← get
  instantiateFunctionWithin (s.maxDepth - s.depth) template explicit

/-- Deduce, complete and instantiate, as a call does. -/
def deduceAndInstantiate (template : TypeHash) (explicit : List TemplateArgument)
    (types : List DataType) : InstantiationM TypeHash := do
  let deductions ← deduceArguments template explicit types
  let arguments ← completeArguments template explicit deductions
  instantiateFunction template arguments

/-- Resolve a call by name. -/
def Lookup.resolveCall (callee : Identifier) (scope : Scope) (arguments : Arguments)
    (object : ImplicitObject) : LookupM CallResolution :=
  resolveCallWith instantiateFunction callee scope arguments object

end ScriptSemantics
