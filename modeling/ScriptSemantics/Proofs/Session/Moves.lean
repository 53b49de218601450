import ScriptSemantics.Proofs.Registry.Operations
import ScriptSemantics.Proofs.Session.ClassConstruction
import ScriptSemantics.Proofs.Session.Tracking

/-!
# Runs of a Session

A session is used from outside by operations, and from inside by body compilers, which issue
requests of their own while an instance is under construction. Both kinds of use are moves: a whole
operation, the way into a body, and the way out of it. The points of all runs, nested or not, are
what sequences of moves lead to.

Moves say less than the program does. For instance, the way out of a body may come with any outcome.
What holds along all moves therefore holds along all runs.
-/

namespace ScriptSemantics

variable {permits : Permits}

/-! ## Operations -/

/-- What a session is asked to do. -/
inductive SessionOp where
  | instantiateClass (template : TypeHash) (explicit : List TemplateArgument)
  | instantiateFunction (template : TypeHash) (explicit : List TemplateArgument)
  /-- Where `levels` more instantiations may nest, as body compilers ask for it. -/
  | instantiateWithin (levels : Nat) (template : TypeHash) (explicit : List TemplateArgument)
  | deduceAndInstantiate (template : TypeHash) (explicit : List TemplateArgument)
      (types : List DataType)
  | resolve (scope : Scope) (identifier : Identifier)
  | tryResolve (scope : Scope) (identifier : Identifier)
  | resolveCall (callee : Identifier) (scope : Scope) (arguments : Arguments)
      (object : ImplicitObject)
  /-- A call resolved where `levels` more instantiations may nest. -/
  | resolveWithin (levels : Nat) (callee : Identifier) (scope : Scope) (arguments : Arguments)
      (object : ImplicitObject)
  /-- A call up to the point where the body of its winner is needed. -/
  | rankCall (callee : Identifier) (scope : Scope) (arguments : Arguments)
      (object : ImplicitObject)
  | declareInstance (template : TypeHash) (explicit : List TemplateArgument)
      (types : List DataType)
  | substituteTemplate (template : TypeHash) (arguments : List TemplateArgument)
  | substituteType (map : Substitution) (t : DataType)
  | substituteArgument (map : Substitution) (a : TemplateArgument)

namespace SessionOp

/-- The session afterwards, whatever the outcome. -/
def run (s : Session) : SessionOp → Session
  | instantiateClass template explicit =>
    (exec (ScriptSemantics.instantiateClass template explicit) s).2
  | instantiateFunction template explicit =>
    (exec (ScriptSemantics.instantiateFunction template explicit) s).2
  | instantiateWithin levels template explicit =>
    (exec (instantiateFunctionWithin levels template explicit) s).2
  | deduceAndInstantiate template explicit types =>
    (exec (ScriptSemantics.deduceAndInstantiate template explicit types) s).2
  | resolve scope identifier => (exec (Lookup.resolve scope identifier) s).2
  | tryResolve scope identifier => (exec (Lookup.tryResolve scope identifier) s).2
  | resolveCall callee scope arguments object =>
    (exec (Lookup.resolveCall callee scope arguments object) s).2
  | resolveWithin levels callee scope arguments object =>
    (exec (Lookup.resolveCallWith (instantiateFunctionWithin levels) callee scope arguments
      object) s).2
  | rankCall callee scope arguments object =>
    (exec (Lookup.rankCall callee scope arguments object) s).2
  | declareInstance template explicit types =>
    (exec (ScriptSemantics.declareInstance template explicit types) s).2
  | substituteTemplate template arguments =>
    (exec (ScriptSemantics.substituteTemplate template arguments) s).2
  | substituteType map t => (exec (map.type t) s).2
  | substituteArgument map a => (exec (map.argument a) s).2

/-- Every operation leads to a related session. -/
theorem run_tracked {R : Session → Session → Prop} (tracks : Tracks R) (op : SessionOp)
    (s : Session) : R s (op.run s) := by
  cases op with
  | instantiateClass template explicit => exact tracks.instantiateClass template explicit s
  | instantiateFunction template explicit => exact tracks.instantiateFunction template explicit s
  | instantiateWithin levels template explicit =>
    exact tracks.instantiateFunctionWithin levels template explicit s
  | deduceAndInstantiate template explicit types =>
    exact tracks.deduceAndInstantiate template explicit types s
  | resolve scope identifier => exact tracks.resolve scope identifier s
  | tryResolve scope identifier => exact tracks.tryResolve scope identifier s
  | resolveCall callee scope arguments object =>
    exact tracks.resolveCall callee scope arguments object s
  | resolveWithin levels callee scope arguments object =>
    exact tracks.calls.resolveCallWith (tracks.instantiateFunctionWithin levels) callee scope
      arguments object s
  | rankCall callee scope arguments object => exact tracks.rankCall callee scope arguments object s
  | declareInstance template explicit types =>
    exact tracks.declareInstance template explicit types s
  | substituteTemplate template arguments => exact tracks.substituteTemplate template arguments s
  | substituteType map t => exact tracks.substitute map t s
  | substituteArgument map a => exact tracks.substituteArgument map a s

end SessionOp

/-! ## Moves -/

namespace Session

/-- One move of a run. -/
inductive Move (permits : Permits) : Session → Session → Prop
  | registry (s : Session) (op : RegistryOp) (permitted : op.Permitted permits) :
      Move permits s { s with registry := op.run s.registry }
  | compiler (s : Session) (compiler : Option (BodyRequest → BodyPlan)) :
      Move permits s { s with bodyCompiler := compiler }
  | operation (s : Session) (op : SessionOp) : Move permits s (op.run s)
  /-- The construction of a function instance up to the point where the body compiler runs. -/
  | enterBody {s s₁ s₂ : Session} {template : TypeHash} {t : FunctionTemplate}
      {arguments : List TemplateArgument} {f : FunctionDecl} (body : Nat)
      (opened : exec (openInstance .function ⟨template, arguments⟩) s = (.ok none, s₁))
      (registered : exec (registerSignature t arguments) s₁ = (.ok f, s₂)) :
      Move permits s (s₂.record (.compiled body t.hash f.hash arguments s₂.depth))
  /-- The end of a construction in progress, from the point where the body compiler is done. -/
  | leaveBody (s : Session) (key : InstanceKey) (t : FunctionTemplate) (f : FunctionDecl)
      (outcome : Except TemplateError FunctionBody)
      (inside : (s.cache .function).isInProgress key) :
      Move permits s (exec (attempt (attachBody t f outcome) >>= closeInstance .function key) s).2

/-- A later point of a run. -/
def Later (permits : Permits) : Session → Session → Prop := Relation.ReflTransGen (Move permits)

/-- A session in which nothing has happened yet. -/
structure IsFresh (s : Session) : Prop where
  functionInstances : s.functionInstances = {}
  classInstances : s.classInstances = {}
  depth : s.depth = 0
  trace : s.trace = []

/-- Attaching a body changes the registry only. -/
theorem attachBody_changes (t : FunctionTemplate) (f : FunctionDecl)
    (outcome : Except TemplateError FunctionBody) (s : Session) :
    ∃ r, Registry.Changes permits s.registry r ∧
      (exec (attachBody t f outcome) s).2 = { s with registry := r } := by
  cases outcome with
  | ok body =>
    refine ⟨_, Registry.updateFunction_changes { f with body := body } s.registry, ?_⟩
    rw [attachBody, exec_bind, exec_registering]
    cases (exec (Registry.updateFunction { f with body := body }) s.registry).1 <;> rfl
  | error e => exact ⟨_, Registry.removeFunction_changes s.registry f.hash, rfl⟩

/-- To follow a relation along a run it is enough to know how it fares when an instance is opened
and closed. Whole operations may be tracked by a finer relation `T`. -/
theorem Move.lift {T R : Session → Session → Prop} (tracks : Tracks T)
    (finer : ∀ s s', T s s' → R s s') (trans : ∀ a b c, R a b → R b c → R a c)
    (registry : ∀ s r, Registry.Changes permits s.registry r → R s { s with registry := r })
    (compiler : ∀ s compiler, R s { s with bodyCompiler := compiler })
    (opened : ∀ s key, s.CanOpen .function key → R s (s.opened .function key))
    (closed : ∀ s key outcome, (s.cache .function).isInProgress key →
      R s (s.closed .function key outcome))
    {s s' : Session} (move : Move permits s s') : R s s' := by
  cases move with
  | registry op permitted => exact registry s _ (op.run_changes permitted s.registry)
  | compiler c => exact compiler s c
  | operation op => exact finer _ _ (op.run_tracked tracks s)
  | @enterBody s₁ s₂ template t arguments f body begun registered =>
    -- Opened, then the signature, then the entry in the trace.
    obtain ⟨canOpen, rfl⟩ := canOpen_of_exec_openInstance begun
    have signature :=
      tracks.registerSignature t arguments (s.opened .function ⟨template, arguments⟩)
    rw [registered] at signature
    have inside := tracks.trans _ _ _ signature (tracks.record s₂ (.compiled body t.hash f.hash
      arguments s₂.depth) rfl)
    exact trans _ _ _ (opened s _ canOpen) (finer _ _ inside)
  | leaveBody key t f outcome inside =>
    -- The key is still in progress after the body was attached, since the caches are not touched.
    obtain ⟨r, changes, attached⟩ := @attachBody_changes permits t f outcome s
    rw [exec_bind_ok (exec_attempt s _), closeInstance, exec_bind_ok (exec_modify _ _),
      exec_ofExcept, attached]
    exact trans _ _ _ (registry s r changes) (closed _ key _ inside)

/-- What every move respects, every later point does. -/
theorem Later.lift {R : Session → Session → Prop} (refl : ∀ s, R s s)
    (trans : ∀ a b c, R a b → R b c → R a c) (step : ∀ s s', Move permits s s' → R s s')
    {s s' : Session} (later : s.Later permits s') : R s s' := by
  induction later with
  | refl => exact refl s
  | tail _ last ih => exact trans _ _ _ ih (step _ _ last)

end Session

end ScriptSemantics
