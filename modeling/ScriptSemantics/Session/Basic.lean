import ScriptSemantics.Overload.Resolution
import ScriptSemantics.Registry.Registration
import ScriptSemantics.Scope.Basic
import ScriptSemantics.Scope.Identifier
import ScriptSemantics.Template.Completion
import ScriptSemantics.Template.InstanceCache

/-!
# Sessions

A session owns the registry of one compilation together with the instances of its templates.
Instantiating a template registers new declarations, so whatever may instantiate is an action on a
session. An action returns its outcome together with the session it leaves behind, also when it
fails.

Compiling the body of a script template is up to the host, and may require further instances and
calls. The host states what it needs as a `BodyPlan`: a finished body, a failure, or a request with
what to do next for each answer. A session also keeps a trace of the events in which the host took
part, and of the instances that were completed.
-/

namespace ScriptSemantics

/-! ## Bodies -/

/-- A resolved call: the resolution, and the templates left out with the reason for each. -/
structure CallResolution where
  resolution : Resolution
  rejected : List (TypeHash × TemplateError) := []
deriving Inhabited, Repr

/-- What a body compiler is asked to compile. -/
structure BodyRequest where
  template : TypeHash
  body : Nat
  arguments : List TemplateArgument
  /-- The substituted instance, already registered. -/
  function : FunctionDecl
  /-- Nesting of instantiations at this point. -/
  depth : Nat
deriving Inhabited, Repr

/-- How the host compiles a body: step by step, through requests to the session. -/
inductive BodyPlan where
  | finish (body : FunctionBody)
  | fail (error : TemplateError)
  | instantiateFunction (template : TypeHash) (arguments : List TemplateArgument)
      (next : Except TemplateError TypeHash → BodyPlan)
  | instantiateClass (template : TypeHash) (arguments : List TemplateArgument)
      (next : Except TemplateError TypeHash → BodyPlan)
  | resolveCall (callee : Identifier) (scope : Scope) (arguments : Arguments)
      (object : ImplicitObject) (next : Except SemanticError CallResolution → BodyPlan)
deriving Inhabited

/-- Which instances an instantiation goes to. -/
inductive InstanceKind where
  | function
  | classType
deriving DecidableEq, Inhabited, Repr

/-- What happens in a session: the host takes part, or an instance is completed. -/
inductive SessionEvent where
  /-- The signature of an instance went to the host for adjustment. -/
  | adjusted (function : TypeHash) (arguments : List TemplateArgument)
  /-- The body of an instance was asked from the host. -/
  | produced (function : TypeHash) (arguments : List TemplateArgument)
  /-- A class instance went to the host to be filled in. -/
  | filled (name : String) (arguments : List TemplateArgument)
  /-- A script body went to the body compiler. -/
  | compiled (body : Nat) (template function : TypeHash) (arguments : List TemplateArgument)
      (depth : Nat)
  /-- A call requested by the body compiler was resolved. -/
  | called (selected : Option TypeHash)
  /-- An instance was built and recorded under its key. -/
  | completed (kind : InstanceKind) (key : InstanceKey) (hash : TypeHash)
deriving DecidableEq, Inhabited, Repr

/-- Whether the host took part. -/
def SessionEvent.isHost : SessionEvent → Bool
  | completed .. => false
  | _ => true

/-! ## Sessions -/

/-- One compilation. -/
structure Session where
  registry : Registry
  functionInstances : InstanceCache := {}
  classInstances : InstanceCache := {}
  bodyCompiler : Option (BodyRequest → BodyPlan) := none
  /-- Nested instantiations allowed before giving up. -/
  maxDepth : Nat := 64
  /-- Current nesting of instantiations. -/
  depth : Nat := 0
  /-- Events, oldest first. -/
  trace : List SessionEvent := []
deriving Inhabited

namespace Session

/-- The instances of one kind. -/
def cache (s : Session) : InstanceKind → InstanceCache
  | .function => s.functionInstances
  | .classType => s.classInstances

/-- Change the instances of one kind. -/
def modifyCache (s : Session) (kind : InstanceKind) (change : InstanceCache → InstanceCache) :
    Session :=
  match kind with
  | .function => { s with functionInstances := change s.functionInstances }
  | .classType => { s with classInstances := change s.classInstances }

/-- Add an event to the trace. -/
def record (s : Session) (event : SessionEvent) : Session :=
  { s with trace := s.trace ++ [event] }

/-- The events in which the host took part, oldest first. -/
def hostEvents (s : Session) : List SessionEvent := s.trace.filter SessionEvent.isHost

end Session

/-- An action on a session that may fail. -/
abbrev SessionT (ε : Type) := ExceptT ε (StateM Session)

/-- An action that instantiates templates. -/
abbrev InstantiationM := SessionT TemplateError

/-- An action that looks names up, and instantiates templates on the way. -/
abbrev LookupM := SessionT SemanticError

/-- Run an action and return its outcome, whatever it is. -/
def attempt {ε ε' α : Type} (action : SessionT ε α) : SessionT ε' (Except ε α) :=
  ExceptT.lift action.run

/-- Run an instantiation as part of a look-up. -/
def instantiating {α : Type} (action : InstantiationM α) : LookupM α :=
  action.adapt TemplateError.toSemantic

/-- Run an action on the registry of the session for a template. -/
def registering {α : Type} (template : TypeHash) (action : RegistryM α) : InstantiationM α := do
  let s ← get
  let (outcome, registry) := action.run.run s.registry
  set { s with registry := registry }
  match outcome with
  | .ok value => return value
  | .error cause => throw (.registration template cause)

/-- Take the outcome of a pure computation. -/
def ofExcept {ε α : Type} (outcome : Except ε α) : SessionT ε α :=
  match outcome with
  | .ok value => return value
  | .error e => throw e

/-- Take the host's answer about an instance of a template. -/
def ofHost {α : Type} (template : TypeHash) (answer : Except String α) : InstantiationM α :=
  match answer with
  | .ok value => return value
  | .error reason => throw (.instantiationFailed template reason)

end ScriptSemantics
