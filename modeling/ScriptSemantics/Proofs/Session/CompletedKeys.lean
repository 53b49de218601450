import ScriptSemantics.Proofs.Session.DeletedCalls

/-!
# Completed Lists Are Keys

Calls complete the arguments of a function template twice: once to declare a signature or to deduce
an instance, and once more when the instance is requested for the list that came out. By then the
session may have changed. The second completion starts from a list with nothing left to fill in, so
it gives that list back, and both address the instance under one key.

The main statement is `Session.completion_settles_key`.
-/

namespace ScriptSemantics

namespace Session

variable {s s' : Session} {template : TypeHash} {explicit arguments : List TemplateArgument}
  {types : List DataType}

/-! ## Requests for a key -/

/-- The request comes down to the function instance under this key: the one on record is returned,
and otherwise it is built for the arguments of the key. -/
def Addresses (s : Session) (request : InstantiationM TypeHash) (key : InstanceKey) : Prop :=
  ∃ t, s.registry.functionTemplate? key.template = some t ∧
    exec request s = exec (instantiateOnce .function key
      (functionBuilder (s.maxDepth - s.depth) key.template t key.arguments)) s

/-- A list that fills the parameters of a template is the list of its own key. -/
theorem addresses_of_fills {params : List TemplateParameter} {path : String}
    (known : s.registry.interface? .function template = some (params, path))
    (filled : FillsParameters params arguments) :
    s.Addresses (instantiateFunction template arguments) ⟨template, arguments⟩ := by
  obtain ⟨t, found, interface⟩ := Option.map_eq_some_iff.mp known
  cases interface
  refine ⟨t, found, ?_⟩
  rw [instantiateFunction, exec_bind_ok (exec_get s), exec_instantiateFunctionWithin]
  simp only [found, CompletionContext.complete_of_fills filled]

/-! ## The arguments of a call -/

/-- In this session, the arguments of a function template for a call are deduced from the types of
the call and completed to this list. -/
def Completes (s : Session) (template : TypeHash) (explicit : List TemplateArgument)
    (types : List DataType) (arguments : List TemplateArgument) : Prop :=
  ∃ t deductions, s.registry.functionTemplate? template = some t ∧
    exec (deduceArguments template explicit types) s = (.ok deductions, s) ∧
    ({ registry := s.registry, template, path := t.path } : CompletionContext).complete t.params
      explicit deductions = .ok arguments

/-- Whatever the session does in the meantime, a request for the completed list addresses the key of
that list. -/
theorem Completes.addresses (h : s.Completes template explicit types arguments)
    (grows : s.Grows s') :
    s'.Addresses (instantiateFunction template arguments) ⟨template, arguments⟩ := by
  obtain ⟨t, deductions, found, -, completed⟩ := h
  have known : s.registry.interface? .function template = some (t.params, t.path) := by
    rw [Registry.interface?, found]
    rfl
  exact addresses_of_fills (grows.templates _ _ _ known)
    (CompletionContext.fills_of_complete completed)

theorem Completes.exec_deduceAndInstantiate (h : s.Completes template explicit types arguments) :
    exec (deduceAndInstantiate template explicit types) s =
      exec (instantiateFunction template arguments) s := by
  obtain ⟨t, deductions, found, deduced, completed⟩ := h
  have completes := exec_completeArguments found explicit deductions
  rw [completed] at completes
  rw [deduceAndInstantiate, exec_bind_ok deduced, exec_bind_ok completes]

/-- An instance is declared for the completed list: it is looked up under the key of that list, and
if there is none, the signature is the one for that list. -/
theorem Completes.exec_declareInstance (h : s.Completes template explicit types arguments) :
    exec (declareInstance template explicit types) s =
      ((s.cache .function).get? ⟨template, arguments⟩).elim
        (exec (declareSignature template arguments) s)
        fun function => (.ok (.existing function), s) := by
  obtain ⟨t, deductions, found, deduced, completed⟩ := h
  have completes := exec_completeArguments found explicit deductions
  rw [completed] at completes
  rw [declareInstance, exec_bind_ok deduced, exec_bind_ok completes, exec_bind_ok (exec_get s)]
  show exec _ s = (s.functionInstances.get? ⟨template, arguments⟩).elim _ _
  cases s.functionInstances.get? ⟨template, arguments⟩ <;> rfl

/-- Whoever declares an instance has completed an argument list for it. -/
theorem completes_of_declareInstance {declared : DeclaredInstance}
    (ran : exec (declareInstance template explicit types) s = (.ok declared, s')) :
    ∃ arguments, s.Completes template explicit types arguments := by
  rw [declareInstance] at ran
  obtain ⟨deductions, u, deduced, completing⟩ := exec_bind_eq_ok ran
  obtain ⟨arguments, u', completes, -⟩ := exec_bind_eq_ok completing
  cases found : s.registry.functionTemplate? template with
  | none =>
    rw [deduceArguments, exec_bind_error (exec_functionTemplate_none found)] at deduced
    cases deduced
  | some t =>
    -- Deduction only reads the session.
    obtain rfl : s = u := by
      rw [exec_deduceArguments found] at deduced
      exact (Prod.mk.inj deduced).2
    rw [exec_completeArguments found] at completes
    exact ⟨arguments, t, deductions, found, deduced, (Prod.mk.inj completes).1⟩

/-- A signature is declared for the list that it is registered for. -/
theorem arguments_of_declareSignature {function : TypeHash} {list : List TemplateArgument}
    (ran : exec (declareSignature template arguments) s = (.ok (.signature function list), s')) :
    list = arguments := by
  rw [declareSignature] at ran
  obtain ⟨f, u, -, ran⟩ := exec_bind_eq_ok ran
  rw [exec_bind_ok (exec_get u)] at ran
  split at ran
  · cases ran
  · obtain ⟨_, u', -, last⟩ := exec_bind_eq_ok ran
    cases last
    rfl

/-- A new signature is one of an instance that is not on record, for the completed list. -/
theorem Completes.of_signature (h : s.Completes template explicit types arguments)
    {function : TypeHash} {list : List TemplateArgument}
    (ran : exec (declareInstance template explicit types) s =
      (.ok (.signature function list), s')) :
    list = arguments ∧ (s.cache .function).get? ⟨template, arguments⟩ = none := by
  rw [h.exec_declareInstance] at ran
  cases recorded : (s.cache .function).get? ⟨template, arguments⟩ with
  | none =>
    rw [recorded] at ran
    exact ⟨arguments_of_declareSignature ran, rfl⟩
  | some known =>
    rw [recorded] at ran
    cases ran

/-! ## The signatures of a call -/

/-- The signature was declared for these explicit arguments and types on the way from `s` to `s'`.
-/
def DeclaredBetween (s s' : Session) (explicit : List TemplateArgument) (types : List DataType)
    (d : DeclaredSignature) : Prop :=
  ∃ a b, s.Grows a ∧ a.Completes d.template explicit types d.arguments ∧
    exec (declareInstance d.template explicit types) a =
      (.ok (.signature d.function d.arguments), b) ∧ b.Grows s'

theorem DeclaredBetween.widen {d : DeclaredSignature} {t t' : Session}
    (h : s.DeclaredBetween s' explicit types d) (before : t.Grows s) (after : s'.Grows t') :
    t.DeclaredBetween t' explicit types d := by
  obtain ⟨a, b, first, completes, declares, last⟩ := h
  exact ⟨a, b, before.trans _ _ _ first, completes, declares, last.trans _ _ _ after⟩

/-- The completed list of a declared signature is a key from then on. -/
theorem DeclaredBetween.addresses {d : DeclaredSignature}
    (h : s.DeclaredBetween s' explicit types d) :
    s'.Addresses (instantiateFunction d.template d.arguments) ⟨d.template, d.arguments⟩ := by
  obtain ⟨a, b, -, completes, declares, after⟩ := h
  have grows := Grows.tracks.declareInstance d.template explicit types a
  rw [declares] at grows
  exact completes.addresses (grows.trans _ _ _ after)

theorem declaredBetween_of_declareInstance {function : TypeHash}
    (ran : exec (declareInstance template explicit types) s =
      (.ok (.signature function arguments), s')) :
    s.DeclaredBetween s' explicit types { template, function, arguments } := by
  obtain ⟨list, completes⟩ := completes_of_declareInstance ran
  obtain ⟨rfl, -⟩ := completes.of_signature ran
  exact ⟨s, s', .refl s, completes, ran, .refl s'⟩

/-- By induction on the templates: each signature comes from the template whose turn it was. -/
theorem declaredBetween_of_declareAll {templates : List TypeHash} {declared : DeclaredCandidates}
    (ran : exec (Lookup.declareAll explicit types templates) s = (.ok declared, s')) :
    ∀ d ∈ declared.signatures, s.DeclaredBetween s' explicit types d := by
  induction templates generalizing s s' declared with
  | nil =>
    cases ran
    intro d member
    cases member
  | cons template templates ih =>
    rw [Lookup.declareAll, exec_bind_ok (exec_attempt s _)] at ran
    have grows := Grows.tracks.declareInstance template explicit types s
    rcases one : exec (declareInstance template explicit types) s with ⟨outcome, s₁⟩
    rw [one] at ran grows
    obtain ⟨rest, s₂, ranRest, last⟩ := exec_bind_eq_ok ran
    have growsRest := Grows.tracks.declareAll explicit types templates s₁
    rw [ranRest] at growsRest
    -- What the other templates declare comes after the turn of this one.
    have others : ∀ d ∈ rest.signatures, s.DeclaredBetween s₂ explicit types d := by
      intro d member
      exact (ih ranRest d member).widen grows (.refl s₂)
    rcases outcome with e | (function | ⟨function, arguments⟩)
    · cases last
      exact others
    · cases last
      exact others
    · cases last
      intro d member
      rcases List.mem_cons.mp member with rfl | later
      · exact (declaredBetween_of_declareInstance one).widen (.refl s) growsRest
      · exact others d later

/-- A signature that wins a call was declared while the call gathered its candidates. -/
theorem declaredBetween_of_rankCall {callee : Identifier} {scope : Scope} {args : Arguments}
    {object : ImplicitObject} {call : CallResolution} {winner : DeclaredSignature}
    (won : exec (Lookup.rankCall callee scope args object) s = (.ok (call, some winner), s')) :
    ∃ callees declared t, Lookup.Gathers callee scope args s callees declared t ∧
      s.DeclaredBetween s' callees.explicit args.dataTypes winner := by
  obtain ⟨callees, declared, t, gathers, -, isWinner, withdrawn⟩ := Lookup.gathers_of_rankCall won
  refine ⟨callees, declared, t, gathers, ?_⟩
  obtain ⟨result, u, resolved, -, declares⟩ := gathers
  -- The callee is looked up before the signatures are declared, and afterwards they are withdrawn.
  have before := Grows.tracks.resolve scope callee s
  rw [resolved] at before
  have after := Grows.tracks.withdraw t declared.signatures
  rw [← withdrawn] at after
  have declaredWinner := List.mem_of_find?_eq_some isWinner.symm
  exact (declaredBetween_of_declareAll declares winner declaredWinner).widen before after

/-! ## The main statement -/

/-- Whatever works on a call in this session finds the instance under the key of the completed list.
-/
structure KeysByCompletion (s : Session) : Prop where
  deduced : ∀ template explicit types arguments,
    s.Completes template explicit types arguments →
      s.Addresses (deduceAndInstantiate template explicit types) ⟨template, arguments⟩
  /-- An instance that is on record under the key is offered to the call as it is. -/
  recorded : ∀ template explicit types arguments function,
    s.Completes template explicit types arguments →
      (s.cache .function).get? ⟨template, arguments⟩ = some function →
        exec (declareInstance template explicit types) s = (.ok (.existing function), s)
  /-- A signature is declared if there is none, and it can be requested under that key. -/
  declared : ∀ template explicit types arguments function list s',
    s.Completes template explicit types arguments →
      exec (declareInstance template explicit types) s = (.ok (.signature function list), s') →
        list = arguments ∧ (s.cache .function).get? ⟨template, arguments⟩ = none ∧
          s'.Addresses (instantiateFunction template list) ⟨template, arguments⟩
  /-- The winner of a call, declared on the way, is requested under the key it was declared for, and
  the call ends as this request does. -/
  called : ∀ callee scope args object call winner s₁,
    exec (Lookup.rankCall callee scope args object) s = (.ok (call, some winner), s₁) →
      (∃ callees declared t, Lookup.Gathers callee scope args s callees declared t ∧
        s.DeclaredBetween s₁ callees.explicit args.dataTypes winner) ∧
      s₁.Addresses (instantiateFunction winner.template winner.arguments)
        ⟨winner.template, winner.arguments⟩ ∧
      ∀ outcome s', exec (instantiateFunction winner.template winner.arguments) s₁ = (outcome, s') →
        exec (Lookup.resolveCall callee scope args object) s =
          ((outcome.map fun _ => call).mapError TemplateError.toSemantic, s')

theorem keysByCompletion (s : Session) : s.KeysByCompletion where
  deduced := by
    intro template explicit types arguments completes
    obtain ⟨t, found, requested⟩ := completes.addresses (.refl s)
    exact ⟨t, found, completes.exec_deduceAndInstantiate.trans requested⟩
  recorded := by
    intro template explicit types arguments function completes known
    rw [completes.exec_declareInstance, known]
    rfl
  declared := by
    intro template explicit types arguments function list s' completes ran
    obtain ⟨rfl, unrecorded⟩ := completes.of_signature ran
    exact ⟨rfl, unrecorded, (declaredBetween_of_declareInstance ran).addresses⟩
  called := by
    intro callee scope args object call winner s₁ won
    obtain ⟨callees, declared, t, gathers, between⟩ := declaredBetween_of_rankCall won
    refine ⟨⟨callees, declared, t, gathers, between⟩, between.addresses, ?_⟩
    intro outcome s' built
    exact Lookup.exec_resolveCallWith_winner won built

/-- A completed list has an argument of the right kind for each parameter, keeps what was given
explicitly and deduced, follows defaults that name a parameter, and completes to itself anywhere. So
sessions that complete a list twice address one instance. -/
theorem completion_settles_key {ctx : CompletionContext} {params : List TemplateParameter}
    {explicit arguments : List TemplateArgument} {deductions : List Deduction}
    (completed : ctx.complete params explicit deductions = .ok arguments) :
    Honours params explicit deductions arguments ∧
      (∀ (ctx' : CompletionContext) deductions',
        ctx'.complete params arguments deductions' = .ok arguments) ∧
      ∀ s : Session, s.KeysByCompletion := by
  have honours := CompletionContext.honours_of_complete completed
  refine ⟨honours, ?_, keysByCompletion⟩
  intro ctx' deductions'
  exact CompletionContext.complete_of_fills honours.fills

/-- A function template `fill<n, T, U = T>(T)`. -/
def filling : Session where
  registry := {
    types := { entries := [
      (FundamentalKind.int.hash, .fundamental .int),
      (⟨3⟩, .placeholder { hash := ⟨3⟩, name := "T", owner := ⟨1⟩, index := 1, kind := .type })] }
    functionTemplates := { entries := [
      (⟨1⟩, {
        name := "fill"
        qualifiedName := "fill"
        hash := ⟨1⟩
        params := [
          { name := "n", kind := .integer, typeHash := ⟨2⟩ },
          { name := "T", kind := .type, typeHash := ⟨3⟩ },
          { name := "U", kind := .type, typeHash := ⟨4⟩, default? := some (.named "T") }]
        signature := [{ dataType := .simple ⟨3⟩ }]
        backend := .script 0 })] }
    namespaces := { nodes := [{ names := {
      functionTemplates := { entries := [("fill", [⟨1⟩])] } } }] } }
  bodyCompiler := some fun _ => .finish (.script 0)

/-- Called as `fill<4>` with an `int`, the number is explicit, `T` is deduced and `U` follows `T`.
The winner of the call is declared and built under the key of that list. -/
theorem completion_settles_key_filling :
    let int := TemplateArgument.ofHash FundamentalKind.int.hash
    let key : InstanceKey := ⟨⟨1⟩, [.integer 4, int, int]⟩
    (∃ t, filling.registry.functionTemplate? ⟨1⟩ = some t ∧
      Honours t.params [.integer 4] [{ index := 1, value := int }] key.arguments ∧
      ∀ (ctx : CompletionContext) deductions,
        ctx.complete t.params key.arguments deductions = .ok key.arguments) ∧
      filling.Addresses (deduceAndInstantiate ⟨1⟩ [.integer 4] [.ofKind .int]) key ∧
      ∃ call winner s₁, exec (Lookup.rankCall (.template "fill" [.integer 4]) .global
          (.types [.ofKind .int]) .none) filling = (.ok (call, some winner), s₁) ∧
        winner.arguments = key.arguments ∧
        s₁.Addresses (instantiateFunction winner.template winner.arguments) key := by
  intro int key
  obtain ⟨t, found⟩ : ∃ t, filling.registry.functionTemplate? ⟨1⟩ = some t := ⟨_, rfl⟩
  have deduced : exec (deduceArguments ⟨1⟩ [.integer 4] [.ofKind .int]) filling =
      (.ok [{ index := 1, value := int }], filling) := by
    cbv
  have completed : ({ registry := filling.registry, template := ⟨1⟩, path := t.path } :
      CompletionContext).complete t.params [.integer 4] [{ index := 1, value := int }] =
        .ok key.arguments := by
    cases found
    cbv
  have won : ((exec (Lookup.rankCall (.template "fill" [.integer 4]) .global
      (.types [.ofKind .int]) .none) filling).1.toOption.bind Prod.snd).map
        (fun winner => (winner.template, winner.arguments)) =
          some (key.template, key.arguments) := by
    cbv
  obtain ⟨honours, again, keys⟩ := completion_settles_key completed
  refine ⟨⟨t, found, honours, again⟩,
    (keys filling).deduced _ _ _ _ ⟨t, _, found, deduced, completed⟩, ?_⟩
  rcases ran : exec (Lookup.rankCall (.template "fill" [.integer 4]) .global
      (.types [.ofKind .int]) .none) filling with ⟨e | ⟨call, _ | winner⟩, s₁⟩
  · rw [ran] at won
    cases won
  · rw [ran] at won
    cases won
  · rw [ran] at won
    obtain ⟨sameTemplate, sameArguments⟩ := Prod.mk.inj (Option.some.inj won)
    refine ⟨call, winner, s₁, rfl, sameArguments, ?_⟩
    have addressed := ((keys filling).called _ _ _ _ _ _ _ ran).2.1
    rwa [sameTemplate, sameArguments] at addressed ⊢

end Session

end ScriptSemantics
