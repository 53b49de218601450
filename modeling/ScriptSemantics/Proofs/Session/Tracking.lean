import ScriptSemantics.Proofs.Execution
import ScriptSemantics.Session.FunctionInstance

/-!
# What Sessions Do, Step by Step

Everything a session does is put together from a handful of elementary changes: host events,
function types that are interned, functions that are registered, completed or taken out, class
instances, and the construction of function instances. A relation that contains these *tracks* the
session: every look-up, substitution, call and instantiation leads to a related session, however
deeply the plans of body compilers nest.

Facts about whole runs are proved through this file. It is enough to say how a relation fares at the
elementary changes; the call graph is walked here, once. There are three layers. Look-up and
substitution make class instances, but no function instances. The plans of body compilers go through
function instances and ranked calls, whatever these are made of. At the bottom both are taken apart.
-/

namespace ScriptSemantics

/-! ## Requests for function instances -/

theorem exec_functionTemplate {s : Session} {template : TypeHash} {t : FunctionTemplate}
    (found : s.registry.functionTemplate? template = some t) :
    exec (functionTemplate template) s = (.ok t, s) := by
  rw [functionTemplate, exec_bind_ok (exec_get s)]
  simp only [found]
  rfl

theorem exec_functionTemplate_none {s : Session} {template : TypeHash}
    (missing : s.registry.functionTemplate? template = none) :
    exec (functionTemplate template) s = (.error (.unknownTemplate template), s) := by
  rw [functionTemplate, exec_bind_ok (exec_get s)]
  simp only [missing]
  rfl

theorem exec_deduceArguments {s : Session} {template : TypeHash} {t : FunctionTemplate}
    (found : s.registry.functionTemplate? template = some t) (explicit : List TemplateArgument)
    (types : List DataType) :
    exec (deduceArguments template explicit types) s =
      ((({ registry := s.registry, template } : CompletionContext).checkCount t.params
          explicit).bind
        fun _ => ({ registry := s.registry, template, explicit := explicit.length } :
          DeductionContext).deduce (t.signature.map Param.dataType) types, s) := by
  rw [deduceArguments, exec_bind_ok (exec_functionTemplate found), exec_bind_ok (exec_get s),
    exec_bind, exec_ofExcept]
  cases ({ registry := s.registry, template } : CompletionContext).checkCount t.params explicit with
  | error e => rfl
  | ok _ => exact exec_ofExcept s _

theorem exec_completeArguments {s : Session} {template : TypeHash} {t : FunctionTemplate}
    (found : s.registry.functionTemplate? template = some t) (explicit : List TemplateArgument)
    (deductions : List Deduction) :
    exec (completeArguments template explicit deductions) s =
      (({ registry := s.registry, template, path := t.path } : CompletionContext).complete t.params
        explicit deductions, s) := by
  rw [completeArguments, exec_bind_ok (exec_functionTemplate found), exec_bind_ok (exec_get s),
    exec_ofExcept]

/-- What runs when a function instance is built where `levels` more instantiations may nest. -/
def functionBuilder (levels : Nat) (template : TypeHash) (t : FunctionTemplate)
    (arguments : List TemplateArgument) : InstantiationM TypeHash :=
  match levels with
  | 0 => do throw (.depthLimitExceeded template (← get).maxDepth)
  | levels + 1 => buildFunction (instantiateFunctionWithin levels) t arguments

/-- A request either fails before any instance is looked for, or comes down to its key. -/
theorem exec_instantiateFunctionWithin (levels : Nat) (template : TypeHash)
    (explicit : List TemplateArgument) (s : Session) :
    exec (instantiateFunctionWithin levels template explicit) s =
      match s.registry.functionTemplate? template with
      | none => (.error (.unknownTemplate template), s)
      | some t =>
        match ({ registry := s.registry, template, path := t.path } : CompletionContext).complete
          t.params explicit [] with
        | .error e => (.error e, s)
        | .ok arguments =>
          exec (instantiateOnce .function ⟨template, arguments⟩
            (functionBuilder levels template t arguments)) s := by
  have unfolded : instantiateFunctionWithin levels template explicit = (do
      let t ← functionTemplate template
      let arguments ← completeArguments template explicit []
      instantiateOnce .function ⟨template, arguments⟩
        (functionBuilder levels template t arguments)) := by
    cases levels <;> rfl
  rw [unfolded]
  cases found : s.registry.functionTemplate? template with
  | none => rw [exec_bind_error (exec_functionTemplate_none found)]
  | some t =>
    rw [exec_bind_ok (exec_functionTemplate found), exec_bind, exec_completeArguments found]
    simp only []
    cases ({ registry := s.registry, template, path := t.path } : CompletionContext).complete
      t.params explicit [] <;> rfl

/-- A request that finds its template and completes its arguments comes down to its key. -/
theorem Respects.instantiateFunctionWithin {R : Session → Session → Prop} (refl : ∀ s, R s s)
    {levels : Nat} {template : TypeHash}
    (once : ∀ s t arguments, s.registry.functionTemplate? template = some t →
      R s (exec (instantiateOnce .function ⟨template, arguments⟩
        (functionBuilder levels template t arguments)) s).2)
    (explicit : List TemplateArgument) :
    Respects R (instantiateFunctionWithin levels template explicit) := by
  intro s
  rw [exec_instantiateFunctionWithin]
  cases found : s.registry.functionTemplate? template with
  | none => exact refl s
  | some t =>
    simp only []
    split
    · exact refl s
    · exact once s t _ found

/-! ## Relations that follow a session -/

/-- The relation contains every elementary change of look-up and substitution. -/
structure TracksLookup (R : Session → Session → Prop) : Prop where
  refl : ∀ s, R s s
  trans : ∀ a b c, R a b → R b c → R a c
  adjusted : ∀ (s : Session) (function : TypeHash) (arguments : List TemplateArgument),
    R s (s.record (.adjusted function arguments))
  intern : ∀ (s : Session) (f : FunctionType),
    R s { s with registry := s.registry.intern (.functionType f) }
  instantiateClass : ∀ template arguments, Respects R (instantiateClass template arguments)

/-- The relation also contains the events in which the host takes part, and the ranking of calls. -/
structure TracksCalls (R : Session → Session → Prop) : Prop extends TracksLookup R where
  record : ∀ (s : Session) (event : SessionEvent), event.isHost → R s (s.record event)
  rankCall : ∀ callee scope arguments object,
    Respects R (Lookup.rankCall callee scope arguments object)

/-- The relation contains every elementary change of a session. -/
structure Tracks (R : Session → Session → Prop) : Prop extends TracksLookup R where
  record : ∀ (s : Session) (event : SessionEvent), event.isHost → R s (s.record event)
  adjusted := fun s function arguments => record s (.adjusted function arguments) rfl
  registerFunction : ∀ (s : Session) (f : FunctionDecl),
    R s { s with registry := (exec (Registry.registerFunction f) s.registry).2 }
  updateFunction : ∀ (s : Session) (f : FunctionDecl),
    R s { s with registry := (exec (Registry.updateFunction f) s.registry).2 }
  removeFunction : ∀ (s : Session) (hash : TypeHash),
    R s { s with registry := (s.registry.removeFunction hash).2 }
  /-- Building an instance of a registered function template is related if what happens inside
  is. -/
  instantiateOnce : ∀ (s : Session) (levels : Nat) (template : TypeHash) (t : FunctionTemplate)
    (arguments : List TemplateArgument), s.registry.functionTemplate? template = some t →
    Respects R (functionBuilder levels template t arguments) →
    R s (exec (instantiateOnce .function ⟨template, arguments⟩
      (functionBuilder levels template t arguments)) s).2

namespace TracksLookup

variable {R : Session → Session → Prop} {ε ε' α β : Type}

/-! ## Parts of actions -/

section Parts

variable (tracks : TracksLookup R)
include tracks

theorem pure (a : α) : Respects R (Pure.pure a : SessionT ε α) := .pure tracks.refl a

theorem throw (e : ε) : Respects R (MonadExcept.throw e : SessionT ε α) := .throw tracks.refl e

theorem bind {x : SessionT ε α} {f : α → SessionT ε β} (hx : Respects R x)
    (hf : ∀ a, Respects R (f a)) : Respects R (x >>= f) := .bind tracks.trans hx hf

theorem ofExcept (outcome : Except ε α) : Respects R (ofExcept outcome : SessionT ε α) := by
  intro s
  rw [exec_ofExcept]
  exact tracks.refl s

theorem ofHost (template : TypeHash) (answer : Except String α) :
    Respects R (ofHost template answer) := by
  intro s
  rw [exec_ofHost]
  exact tracks.refl s

end Parts

/-! ## Substitution -/

section Substitution

open ScriptSemantics.Substitution

variable (tracks : TracksLookup R)
include tracks

theorem each {action : α → InstantiationM β} (h : ∀ a, Respects R (action a)) (as : List α) :
    Respects R (each action as) := by
  induction as with
  | nil => exact tracks.pure []
  | cons a as ih =>
    apply tracks.bind (h a)
    intro b
    apply tracks.bind ih
    intro bs
    exact tracks.pure (b :: bs)

theorem valueAsType (t : DataType) (value : TemplateArgument) :
    Respects R (valueAsType t value) := by
  apply Respects.get_bind
  intro s
  exact tracks.throw _

theorem argumentBy (map : Substitution) {rule : DataType → InstantiationM DataType}
    (h : ∀ t, Respects R (rule t)) (a : TemplateArgument) : Respects R (argumentBy map rule a) := by
  cases a with
  | type t =>
    simp only [Substitution.argumentBy]
    split
    · exact tracks.pure _
    · exact tracks.pure _
    · exact tracks.bind (h t) fun _ => tracks.pure _
  | bool value => exact tracks.pure _
  | integer value => exact tracks.pure _

/-- By induction on the levels of nesting; one level meets patterns, whose instances are class
instances, and function types, which are interned anew. -/
theorem typeWithin (map : Substitution) (levels : Nat) (t : DataType) :
    Respects R (typeWithin map levels t) := by
  induction levels generalizing t with
  | zero => exact tracks.throw _
  | succ levels ih =>
    unfold Substitution.typeWithin
    split
    · exact tracks.pure _
    · exact tracks.valueAsType t _
    · apply Respects.get_bind
      intro s
      split
      · rename_i p _
        apply tracks.bind (tracks.each (tracks.argumentBy map ih) p.arguments)
        intro arguments
        exact tracks.bind (tracks.instantiateClass p.template arguments) fun _ => tracks.pure _
      · rename_i f _
        apply tracks.bind (ih f.returnType)
        intro returnType
        apply tracks.bind (tracks.each ih f.params)
        intro params
        exact tracks.bind (.modify fun s => tracks.intern s _) fun _ => tracks.pure _
      · exact tracks.pure _

theorem substitute (map : Substitution) (t : DataType) : Respects R (map.type t) :=
  tracks.typeWithin map TypeHash.count t

theorem substituteArgument (map : Substitution) (a : TemplateArgument) :
    Respects R (map.argument a) := tracks.argumentBy map (tracks.substitute map) a

theorem params (map : Substitution) (ps : List Param) : Respects R (map.params ps) := by
  apply tracks.each
  intro p
  apply tracks.bind (tracks.substitute map p.dataType)
  intro t
  exact tracks.pure _

end Substitution

/-! ## Function templates -/

section FunctionTemplates

variable (tracks : TracksLookup R)
include tracks

theorem functionTemplate (template : TypeHash) : Respects R (functionTemplate template) := by
  apply Respects.get_bind
  intro s
  split
  · exact tracks.pure _
  · exact tracks.throw _

theorem deduceArguments (template : TypeHash) (explicit : List TemplateArgument)
    (types : List DataType) : Respects R (deduceArguments template explicit types) := by
  apply tracks.bind (tracks.functionTemplate template)
  intro t
  apply Respects.get_bind
  intro s
  apply tracks.bind (tracks.ofExcept _)
  intro _
  exact tracks.ofExcept _

theorem completeArguments (template : TypeHash) (explicit : List TemplateArgument)
    (deductions : List Deduction) :
    Respects R (completeArguments template explicit deductions) := by
  apply tracks.bind (tracks.functionTemplate template)
  intro t
  apply Respects.get_bind
  intro s
  exact tracks.ofExcept _

theorem adjustSignature (t : FunctionTemplate) (arguments : List TemplateArgument)
    (f : FunctionDecl) : Respects R (adjustSignature t arguments f) := by
  unfold ScriptSemantics.adjustSignature
  split
  · exact tracks.bind (.modify fun s => tracks.adjusted s _ _) fun _ => tracks.ofHost _ _
  · exact tracks.pure f

theorem instanceSignature (t : FunctionTemplate) (arguments : List TemplateArgument) :
    Respects R (instanceSignature t arguments) := by
  apply tracks.bind (tracks.params _ t.signature)
  intro params
  apply tracks.bind (tracks.substitute _ t.returnType)
  intro returnType
  exact tracks.adjustSignature t arguments _

theorem substituteTemplate (template : TypeHash) (arguments : List TemplateArgument) :
    Respects R (substituteTemplate template arguments) :=
  tracks.bind (tracks.functionTemplate template) fun t => tracks.instanceSignature t arguments

end FunctionTemplates

/-! ## Look-up -/

section Lookup

open ScriptSemantics.Lookup

variable (tracks : TracksLookup R)
include tracks

theorem applyArguments (base : LookupResult) (arguments : List TemplateArgument) :
    Respects R (applyArguments base arguments) := by
  unfold Lookup.applyArguments
  split
  · rename_i hash
    exact tracks.bind (.instantiating (tracks.instantiateClass hash arguments)) fun _ =>
      tracks.pure _
  · split
    · exact tracks.pure _
    · exact tracks.pure _
  · exact tracks.pure _

theorem resolveIn (qualifier : LookupResult) (identifier : Identifier) :
    Respects R (resolveIn qualifier identifier) := by
  induction identifier generalizing qualifier with
  | simple name => exact Respects.get_bind fun _ => tracks.pure _
  | operator op => exact Respects.get_bind fun _ => tracks.pure _
  | qualified inner last ihInner ihLast =>
    exact tracks.bind (ihInner qualifier) fun found => ihLast found
  | template name arguments =>
    apply Respects.get_bind
    intro s
    simp only []
    split
    · exact tracks.pure _
    · exact tracks.applyArguments _ arguments

theorem resolve (scope : Scope) (identifier : Identifier) :
    Respects R (resolve scope identifier) := by
  induction identifier with
  | simple name => exact Respects.get_bind fun _ => tracks.pure _
  | operator op => exact Respects.get_bind fun _ => tracks.pure _
  | qualified qualifier member ihQualifier _ =>
    apply tracks.bind ihQualifier
    intro found
    apply Respects.get_bind
    intro s
    exact tracks.resolveIn _ member
  | template name arguments =>
    exact Respects.get_bind fun s => tracks.applyArguments _ arguments

theorem tryResolve (scope : Scope) (identifier : Identifier) :
    Respects R (tryResolve scope identifier) := by
  apply tracks.bind (tracks.resolve scope identifier)
  intro found
  split
  · exact tracks.throw _
  · exact tracks.pure _

end Lookup

end TracksLookup

/-! ## Plans -/

namespace TracksCalls

variable {R : Session → Session → Prop} {ε : Type} (tracks : TracksCalls R)
  {instantiate : FunctionInstantiator}
include tracks

theorem recording (event : SessionEvent) (host : event.isHost) :
    Respects R (modify (·.record event) : SessionT ε PUnit) :=
  .modify fun s => tracks.record s event host

theorem resolveCallWith
    (h : ∀ template arguments, Respects R (instantiate template arguments))
    (callee : Identifier) (scope : Scope) (arguments : Arguments) (object : ImplicitObject) :
    Respects R (Lookup.resolveCallWith instantiate callee scope arguments object) := by
  apply tracks.bind (tracks.rankCall callee scope arguments object)
  rintro ⟨call, winner?⟩
  cases winner? with
  | none => exact tracks.pure call
  | some winner =>
    apply tracks.bind (.discard (.instantiating (h winner.template winner.arguments)))
    intro _
    exact tracks.pure _

/-- By induction on the plan: each request leads to a related session, and so does what the host
does next with the answer. -/
theorem runPlan (h : ∀ template arguments, Respects R (instantiate template arguments))
    (plan : BodyPlan) : Respects R (runPlan instantiate plan) := by
  induction plan with
  | finish body => exact tracks.pure body
  | fail e => exact tracks.throw e
  | instantiateFunction template arguments next ih =>
    exact tracks.bind (.attempt (h template arguments)) fun outcome => ih outcome
  | instantiateClass template arguments next ih =>
    exact tracks.bind (.attempt (tracks.instantiateClass template arguments)) fun outcome =>
      ih outcome
  | resolveCall callee scope arguments object next ih =>
    apply tracks.bind (.attempt (tracks.resolveCallWith h callee scope arguments object))
    intro outcome
    cases outcome with
    | error e => exact ih (.error e)
    | ok call => exact tracks.bind (tracks.recording _ rfl) fun _ => ih (.ok call)

theorem produceBody (h : ∀ template arguments, Respects R (instantiate template arguments))
    (t : FunctionTemplate) (arguments : List TemplateArgument) (f : FunctionDecl) :
    Respects R (produceBody instantiate t arguments f) := by
  unfold ScriptSemantics.produceBody
  split
  · exact tracks.bind (tracks.recording _ rfl) fun _ => tracks.ofHost _ _
  · intro s
    rw [exec_bind_ok (exec_get s)]
    split
    · exact tracks.refl s
    · -- The plan runs in the session that has the request of the compiler in its trace.
      rename_i compile _
      rw [exec_bind_ok (exec_set s _)]
      exact tracks.trans _ _ _ (tracks.record s _ rfl) (tracks.runPlan h _ _)

end TracksCalls

namespace Tracks

variable {R : Session → Session → Prop} (tracks : Tracks R) {instantiate : FunctionInstantiator}
include tracks

/-! ## Calls -/

theorem registeringFunction (template : TypeHash) (f : FunctionDecl) :
    Respects R (registering template (Registry.registerFunction f)) := by
  intro s
  rw [exec_registering]
  exact tracks.registerFunction s f

theorem updatingFunction (template : TypeHash) (f : FunctionDecl) :
    Respects R (registering template (Registry.updateFunction f)) := by
  intro s
  rw [exec_registering]
  exact tracks.updateFunction s f

theorem declareInstance (template : TypeHash) (explicit : List TemplateArgument)
    (types : List DataType) : Respects R (declareInstance template explicit types) := by
  apply tracks.bind (tracks.deduceArguments template explicit types)
  intro deductions
  apply tracks.bind (tracks.completeArguments template explicit deductions)
  intro arguments
  apply Respects.get_bind
  intro s
  split
  · exact tracks.pure _
  · apply tracks.bind (tracks.substituteTemplate template arguments)
    intro f
    apply Respects.get_bind
    intro s
    split
    · exact tracks.pure _
    · apply tracks.bind (.discard (tracks.registeringFunction template f))
      intro _
      exact tracks.pure _

theorem declareAll (explicit : List TemplateArgument) (types : List DataType)
    (templates : List TypeHash) : Respects R (Lookup.declareAll explicit types templates) := by
  induction templates with
  | nil => exact tracks.pure _
  | cons template templates ih =>
    apply tracks.bind (.attempt (tracks.declareInstance template explicit types))
    intro outcome
    apply tracks.bind ih
    intro rest
    split <;> exact tracks.pure _

/-- Withdrawing signatures takes out one function after the other. -/
theorem withdraw (s : Session) (signatures : List DeclaredSignature) :
    R s (Lookup.withdraw s signatures) := by
  induction signatures generalizing s with
  | nil => exact tracks.refl s
  | cons d signatures ih =>
    exact tracks.trans _ _ _ (tracks.removeFunction s d.function) (ih _)

theorem rankCall (callee : Identifier) (scope : Scope) (arguments : Arguments)
    (object : ImplicitObject) : Respects R (Lookup.rankCall callee scope arguments object) := by
  apply tracks.bind (tracks.resolve scope callee)
  intro found
  apply Respects.get_bind
  intro s
  apply tracks.bind (tracks.ofExcept _)
  intro callees
  apply tracks.bind (tracks.declareAll _ _ callees.templates)
  intro declared
  apply Respects.get_bind
  intro s
  apply tracks.bind (.modify fun s => tracks.withdraw s declared.signatures)
  intro _
  exact tracks.pure _

/-- Ranking is taken apart into elementary changes. -/
theorem calls : TracksCalls R where
  toTracksLookup := tracks.toTracksLookup
  record := tracks.record
  rankCall := tracks.rankCall

/-! ## Function instances -/

theorem registerSignature (t : FunctionTemplate) (arguments : List TemplateArgument) :
    Respects R (registerSignature t arguments) := by
  apply tracks.bind (tracks.instanceSignature t arguments)
  intro f
  apply tracks.bind (.discard (tracks.registeringFunction t.hash f))
  intro _
  exact tracks.pure f

theorem attachBody (t : FunctionTemplate) (f : FunctionDecl)
    (outcome : Except TemplateError FunctionBody) : Respects R (attachBody t f outcome) := by
  cases outcome with
  | ok body => exact tracks.bind (tracks.updatingFunction t.hash _) fun _ => tracks.pure _
  | error e =>
    exact tracks.bind (.modify fun s => tracks.removeFunction s f.hash) fun _ => tracks.throw e

theorem buildFunction (h : ∀ template arguments, Respects R (instantiate template arguments))
    (t : FunctionTemplate) (arguments : List TemplateArgument) :
    Respects R (buildFunction instantiate t arguments) := by
  apply tracks.bind (tracks.registerSignature t arguments)
  intro f
  apply tracks.bind (.attempt (tracks.calls.produceBody h t arguments f))
  intro outcome
  exact tracks.attachBody t f outcome

/-- By induction on the nesting that is still allowed: the plan of a body issues its requests one
level deeper. -/
theorem instantiateFunctionWithin (levels : Nat) (template : TypeHash)
    (explicit : List TemplateArgument) :
    Respects R (instantiateFunctionWithin levels template explicit) := by
  induction levels generalizing template explicit with
  | zero =>
    -- No level is left: the limit is reported before anything is built.
    refine .instantiateFunctionWithin tracks.refl (fun s t arguments found => ?_) explicit
    refine tracks.instantiateOnce s 0 template t arguments found ?_
    exact Respects.get_bind fun _ => tracks.throw _
  | succ levels ih =>
    refine .instantiateFunctionWithin tracks.refl (fun s t arguments found => ?_) explicit
    refine tracks.instantiateOnce s (levels + 1) template t arguments found ?_
    exact tracks.buildFunction ih t arguments

theorem instantiateFunction (template : TypeHash) (explicit : List TemplateArgument) :
    Respects R (instantiateFunction template explicit) :=
  Respects.get_bind fun _ => tracks.instantiateFunctionWithin _ template explicit

theorem deduceAndInstantiate (template : TypeHash) (explicit : List TemplateArgument)
    (types : List DataType) : Respects R (deduceAndInstantiate template explicit types) := by
  apply tracks.bind (tracks.deduceArguments template explicit types)
  intro deductions
  apply tracks.bind (tracks.completeArguments template explicit deductions)
  intro arguments
  exact tracks.instantiateFunction template arguments

theorem resolveCall (callee : Identifier) (scope : Scope) (arguments : Arguments)
    (object : ImplicitObject) : Respects R (Lookup.resolveCall callee scope arguments object) :=
  tracks.calls.resolveCallWith tracks.instantiateFunction callee scope arguments object

end Tracks

end ScriptSemantics
