import ScriptSemantics.Session.Basic

/-!
# Instances

The discipline that every instantiation follows, and the instances of class templates.

An instance is built once: later requests for its key find it. While it is built its key counts as
in progress and the nesting is one deeper; meeting the key again is a recursive instantiation. A
class instance whose members cannot all be registered is taken out again.
-/

namespace ScriptSemantics

/-! ## One instance for each key -/

/-- The session in which a key is under construction, one level deeper. -/
def Session.opened (s : Session) (kind : InstanceKind) (key : InstanceKey) : Session :=
  { s.modifyCache kind (·.start key) with depth := s.depth + 1 }

/-- The session after the construction of a key, back at the level around it. -/
def Session.closed (s : Session) (kind : InstanceKind) (key : InstanceKey) :
    Except TemplateError TypeHash → Session
  | .ok hash =>
    ({ s with depth := s.depth - 1 }.modifyCache kind (·.finish key hash)).record
      (.completed kind key hash)
  | .error _ => { s with depth := s.depth - 1 }.modifyCache kind (·.abandon key)

/-- Find the instance of a key, or start its construction. -/
def openInstance (kind : InstanceKind) (key : InstanceKey) : InstantiationM (Option TypeHash) := do
  let s ← get
  match (s.cache kind).get? key with
  | some hash => return some hash
  | none =>
    if (s.cache kind).isInProgress key then
      throw (.recursiveInstantiation key.template key.arguments)
    if s.maxDepth ≤ s.depth then
      throw (.depthLimitExceeded key.template s.maxDepth)
    set (s.opened kind key)
    return none

/-- End the construction of a key with its outcome. -/
def closeInstance (kind : InstanceKind) (key : InstanceKey)
    (outcome : Except TemplateError TypeHash) : InstantiationM TypeHash := do
  modify (·.closed kind key outcome)
  ofExcept outcome

/-- Return the instance of a key or build it. -/
def instantiateOnce (kind : InstanceKind) (key : InstanceKey) (build : InstantiationM TypeHash) :
    InstantiationM TypeHash := do
  match ← openInstance kind key with
  | some hash => return hash
  | none => closeInstance kind key (← attempt build)

/-! ## Class templates -/

/-- The built-in list takes exactly one type that is no reference. -/
def fillElementList (arguments : List TemplateArgument) (made : ClassInstance) :
    Except String ClassInstance :=
  match arguments with
  | [.type t] =>
    if t.isReference then .error ("list elements cannot be references (" ++ t.text ++ ")")
    else .ok made
  | _ => .error "initializer_list takes exactly one type argument"

/-- Fill in the members of a class instance. -/
def fillInstance (t : ClassTemplate) (arguments : List TemplateArgument) (made : ClassInstance) :
    InstantiationM ClassInstance := do
  match t.backend with
  | .elementList => ofHost t.hash (fillElementList arguments made)
  | .host fill =>
    modify (·.record (.filled made.decl.qualifiedName arguments))
    ofHost t.hash (fill arguments made)

/-- Register the members of a class instance. If one is refused, the class is taken out again. -/
def registerMembers (template classHash : TypeHash) : List FunctionDecl → InstantiationM Unit
  | [] => return ()
  | f :: fs => do
    match ← attempt (registering template (Registry.registerFunction f)) with
    | .ok _ => registerMembers template classHash fs
    | .error e =>
      modify fun s => { s with registry := (s.registry.removeType classHash).2 }
      throw e

/-- Build the instance of a class template, unless its identity is taken already. -/
def buildClass (t : ClassTemplate) (arguments : List TemplateArgument) :
    InstantiationM TypeHash := do
  let decl := ClassDecl.templateInstance t.path (t.instanceName arguments) t.hash arguments
  if ((← get).registry.type? decl.hash).isSome then return decl.hash
  let made ← fillInstance t arguments { decl }
  let hash ← registering t.hash (Registry.registerType (.classType made.decl))
  registerMembers t.hash hash made.functions
  return hash

/-- The instance of a class template. Trailing parameters with defaults may be left out. -/
def instantiateClass (template : TypeHash) (explicit : List TemplateArgument) :
    InstantiationM TypeHash := do
  let registry := (← get).registry
  match registry.classTemplate? template with
  | none => throw (.unknownTemplate template)
  | some t =>
    let ctx : CompletionContext := { registry, template, path := t.path }
    let arguments ← ofExcept (ctx.complete t.params explicit [])
    instantiateOnce .classType { template, arguments } (buildClass t arguments)

end ScriptSemantics
