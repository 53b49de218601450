import ScriptSemantics.Proofs.Overload.Selection
import ScriptSemantics.Proofs.Session.Lookups
import ScriptSemantics.Proofs.Template.Completion

/-!
# Ranking Leaves No Signature Behind

To rank its candidates a call registers a signature for each function template that it considers,
and afterwards it takes all of them out again. Each signature enters under an identity that is free
by then, so that nothing else is taken out with it. What remains are the class instances that
look-up and substitution have built: `Session.rankCall_looks`.

If a signature wins, what is known about it when it was declared still holds when it is withdrawn:
no instance was built for its argument list, and the list is complete (`Session.Declared`).
-/

namespace ScriptSemantics

/-! ## Hosts -/

/-- The host adjusts signatures without giving them another identity. -/
def FunctionBackend.KeepsIdentity : FunctionBackend → Prop
  | .native hooks => ∀ adjust, hooks.adjust? = some adjust →
      ∀ arguments f f', adjust arguments f = .ok f' → f'.hash = f.hash
  | .script _ => True

/-- The signature of an instance is the substituted one, or what the host makes of it. -/
theorem instanceSignature_cases {t : FunctionTemplate} {arguments : List TemplateArgument}
    {s s' : Session} {f : FunctionDecl} (h : exec (instanceSignature t arguments) s = (.ok f, s')) :
    ∃ params returnType,
      f = .templateInstance t.hash arguments t.name t.path t.owner params returnType ∨
        ∃ hooks adjust, t.backend = .native hooks ∧ hooks.adjust? = some adjust ∧
          adjust arguments (.templateInstance t.hash arguments t.name t.path t.owner params
            returnType) = .ok f := by
  rw [instanceSignature] at h
  obtain ⟨params, s₁, -, h⟩ := exec_bind_eq_ok h
  obtain ⟨returnType, s₂, -, h⟩ := exec_bind_eq_ok h
  refine ⟨params, returnType, ?_⟩
  unfold adjustSignature at h
  split at h
  · rename_i adjust _ host
    rw [exec_bind_ok (exec_modify _ _), exec_ofHost] at h
    refine .inr ⟨_, adjust, host, rfl, ?_⟩
    cases answer : adjust arguments (.templateInstance t.hash arguments t.name t.path t.owner params
      returnType) with
    | error reason =>
      rw [answer] at h
      cases h
    | ok f' =>
      rw [answer] at h
      cases h
      rfl
  · cases h
    exact .inl rfl

/-- The identity of a signature is that of the instance. -/
theorem hash_of_instanceSignature {t : FunctionTemplate} (keeps : t.backend.KeepsIdentity)
    {arguments : List TemplateArgument} {s s' : Session} {f : FunctionDecl}
    (h : exec (instanceSignature t arguments) s = (.ok f, s')) :
    f.hash = .ofTemplateInstance t.hash arguments := by
  obtain ⟨params, returnType, rfl | ⟨hooks, adjust, host, adjusts, adjusted⟩⟩ :=
    instanceSignature_cases h
  · rfl
  · rw [host] at keeps
    exact keeps adjust adjusts _ _ _ adjusted

namespace Session

/-- A signature of this session: of an instance that was not built yet, for a complete argument
list. -/
structure Declared (s : Session) (d : DeclaredSignature) : Prop where
  unbuilt : (s.cache .function).get? ⟨d.template, d.arguments⟩ = none
  complete : ∃ t, s.registry.functionTemplate? d.template = some t ∧
    FillsParameters t.params d.arguments ∧
    (t.backend.KeepsIdentity → d.function = .ofTemplateInstance t.hash d.arguments)

/-- What can be declared later could have been declared before. -/
theorem Declared.of_looks {declared : List TypeHash} {s s' : Session} {d : DeclaredSignature}
    (h : Looks declared s s') (isDeclared : s'.Declared d) : s.Declared d where
  unbuilt := (h.instances _).symm.trans isDeclared.unbuilt
  complete := by
    obtain ⟨t, found, rest⟩ := isDeclared.complete
    rw [Registry.functionTemplate?, h.templates.1] at found
    exact ⟨t, found, rest⟩

variable {s : Session}

/-- The second half of declaring an instance: its signature is registered, unless it is known. -/
def declareSignature (template : TypeHash) (arguments : List TemplateArgument) :
    InstantiationM DeclaredInstance := do
  let f ← substituteTemplate template arguments
  if ((← get).registry.function? f.hash).isSome then return .existing f.hash
  discard (registering template (Registry.registerFunction f))
  return .signature f.hash arguments

/-- The first half only reads the session: an argument list is deduced and completed, and no
instance is known for it. -/
theorem exec_declareInstance_cases (s : Session) (template : TypeHash)
    (explicit : List TemplateArgument) (types : List DataType) :
    (∃ e, exec (declareInstance template explicit types) s = (.error e, s)) ∨
      (∃ function, exec (declareInstance template explicit types) s =
        (.ok (.existing function), s)) ∨
      ∃ t arguments, s.registry.functionTemplate? template = some t ∧
        FillsParameters t.params arguments ∧
        (s.cache .function).get? ⟨template, arguments⟩ = none ∧
        exec (declareInstance template explicit types) s =
          exec (declareSignature template arguments) s := by
  cases found : s.registry.functionTemplate? template with
  | none =>
    have unknown : exec (deduceArguments template explicit types) s =
        (.error (.unknownTemplate template), s) := by
      rw [deduceArguments, exec_bind_error (exec_functionTemplate_none found)]
    exact .inl ⟨_, by rw [declareInstance, exec_bind_error unknown]⟩
  | some t =>
    rw [declareInstance, exec_bind, exec_deduceArguments found]
    generalize (({ registry := s.registry, template } : CompletionContext).checkCount t.params
      explicit).bind _ = deduced
    cases deduced with
    | error e => exact .inl ⟨e, rfl⟩
    | ok deductions =>
      simp only []
      rw [exec_bind, exec_completeArguments found]
      cases completed : ({ registry := s.registry, template, path := t.path } :
        CompletionContext).complete t.params explicit deductions with
      | error e => exact .inl ⟨e, rfl⟩
      | ok arguments =>
        simp only []
        rw [exec_bind_ok (exec_get s)]
        cases built : s.functionInstances.get? ⟨template, arguments⟩ with
        | some function => exact .inr (.inl ⟨function, rfl⟩)
        | none =>
          exact .inr (.inr ⟨t, arguments, rfl, CompletionContext.fills_of_complete completed, built,
            rfl⟩)

/-- A function that is registered for a template enters, or it is refused and nothing changes. -/
theorem registering_cases (template : TypeHash) (f : FunctionDecl) (s : Session) :
    (∃ e, exec (discard (registering template (Registry.registerFunction f))) s = (.error e, s)) ∨
      ∃ r, exec (discard (registering template (Registry.registerFunction f))) s =
        (.ok ⟨⟩, { s with registry := r }) ∧ Registry.Entered f s.registry r := by
  rw [exec_discard, exec_registering]
  rcases Registry.registerFunction_cases f s.registry with ⟨e, refused⟩ | ⟨r, accepted, entered⟩
  · rw [refused]
    exact .inl ⟨_, rfl⟩
  · rw [accepted]
    exact .inr ⟨r, rfl, entered⟩

/-- The signature that is declared is new, and otherwise only class instances were built. -/
theorem declareSignature_cases (s : Session) {template : TypeHash} {t : FunctionTemplate}
    (found : s.registry.functionTemplate? template = some t) (arguments : List TemplateArgument) :
    (∃ outcome s', exec (declareSignature template arguments) s = (outcome, s') ∧
        Looks [] s s' ∧ ∀ function arguments', outcome ≠ .ok (.signature function arguments')) ∨
      ∃ function s', exec (declareSignature template arguments) s =
          (.ok (.signature function arguments), s') ∧
        Looks [function] s s' ∧ s.Frees s' function ∧
        (t.backend.KeepsIdentity → function = .ofTemplateInstance t.hash arguments) := by
  have looked := Looks.tracksLookup.substituteTemplate template arguments s
  rw [declareSignature, exec_bind]
  rcases substituted : exec (substituteTemplate template arguments) s with ⟨e | f, s₁⟩
  · rw [substituted] at looked
    exact .inl ⟨_, _, rfl, looked, by simp⟩
  · rw [substituted] at looked
    simp only []
    rw [exec_bind_ok (exec_get s₁)]
    by_cases registered : (s₁.registry.function? f.hash).isSome
    · simp only [registered, if_true]
      exact .inl ⟨_, _, rfl, looked, by simp⟩
    · simp only [registered]
      rcases registering_cases template f s₁ with ⟨e, refused⟩ | ⟨r, accepted, entered⟩
      · refine .inl ⟨.error e, s₁, ?_, looked, by simp⟩
        show exec (discard (registering template (Registry.registerFunction f)) >>= _) s₁ = _
        rw [exec_bind_error refused]
      · refine .inr ⟨f.hash, { s₁ with registry := r }, ?_, looked.trans (.of_entered entered),
          looked.frees entered.free, fun keeps => ?_⟩
        · show exec (discard (registering template (Registry.registerFunction f)) >>= _) s₁ = _
          rw [exec_bind_ok accepted]
          rfl
        · rw [substituteTemplate, exec_bind_ok (exec_functionTemplate found)] at substituted
          exact hash_of_instanceSignature keeps substituted

/-- Declaring an instance declares a signature that can be declared, or nothing. -/
theorem declareInstance_cases (s : Session) (template : TypeHash)
    (explicit : List TemplateArgument) (types : List DataType) :
    (∃ outcome s', exec (declareInstance template explicit types) s = (outcome, s') ∧
        Looks [] s s' ∧ ∀ function arguments, outcome ≠ .ok (.signature function arguments)) ∨
      ∃ function arguments s', exec (declareInstance template explicit types) s =
          (.ok (.signature function arguments), s') ∧
        Looks [function] s s' ∧ s.Declared ⟨template, function, arguments⟩ ∧
        s.Frees s' function := by
  rcases exec_declareInstance_cases s template explicit types with
    ⟨e, ran⟩ | ⟨function, ran⟩ | ⟨t, arguments, found, fills, unbuilt, ran⟩
  · exact .inl ⟨_, _, ran, .refl s, by simp⟩
  · exact .inl ⟨_, _, ran, .refl s, by simp⟩
  · rw [ran]
    rcases declareSignature_cases s found arguments with
      ⟨outcome, s', ran', looked, noSignature⟩ | ⟨function, s', ran', looked, frees, identity⟩
    · exact .inl ⟨outcome, s', ran', looked, noSignature⟩
    · exact .inr
        ⟨function, arguments, s', ran', looked, ⟨unbuilt, t, found, fills, identity⟩, frees⟩

/-- The signatures that a call declares, and what else it does to declare them. -/
theorem declareAll_looks (s : Session) (explicit : List TemplateArgument) (types : List DataType)
    (templates : List TypeHash) :
    ∃ declared s', exec (Lookup.declareAll explicit types templates) s = (.ok declared, s') ∧
      Looks (declared.signatures.map DeclaredSignature.function) s s' ∧
      ∀ d ∈ declared.signatures, s.Declared d ∧ s.Frees s' d.function := by
  induction templates generalizing s with
  | nil => exact ⟨{}, s, rfl, .refl s, fun _ member => nomatch member⟩
  | cons template templates ih =>
    rw [Lookup.declareAll, exec_bind_ok (exec_attempt s _)]
    rcases declareInstance_cases s template explicit types with
      ⟨outcome, s₁, ran, looked, noSignature⟩ |
        ⟨function, arguments, s₁, ran, looked, isDeclared, frees⟩
    · obtain ⟨rest, s₂, ranRest, lookedRest, allDeclared⟩ := ih s₁
      have later : ∀ d ∈ rest.signatures, s.Declared d ∧ s.Frees s₂ d.function :=
        fun d member => ⟨(allDeclared d member).1.of_looks looked,
          looked.frees_of_later lookedRest.trace (allDeclared d member).2⟩
      rw [ran, exec_bind_ok ranRest]
      rcases outcome with e | (function | ⟨function, arguments⟩)
      · exact ⟨_, s₂, rfl, looked.trans lookedRest, later⟩
      · exact ⟨_, s₂, rfl, looked.trans lookedRest, later⟩
      · exact absurd rfl (noSignature function arguments)
    · obtain ⟨rest, s₂, ranRest, lookedRest, allDeclared⟩ := ih s₁
      rw [ran, exec_bind_ok ranRest]
      refine ⟨_, s₂, rfl, looked.trans lookedRest, fun d member => ?_⟩
      rcases List.mem_cons.mp member with rfl | member
      · exact ⟨isDeclared, frees.imp_right (Gives.later · looked.trace lookedRest.trace)⟩
      · exact ⟨(allDeclared d member).1.of_looks looked,
          looked.frees_of_later lookedRest.trace (allDeclared d member).2⟩

/-! ## Ranking -/

/-- Withdrawing signatures touches nothing but them. -/
theorem withdraw_eq (s : Session) (signatures : List DeclaredSignature) :
    Lookup.withdraw s signatures =
      { s with registry := { s.registry with
        functions := (signatures.map DeclaredSignature.function).foldl Table.erase
          s.registry.functions } } := by
  have folded (r : Registry) :
      signatures.foldl (fun r d => (r.removeFunction d.function).2) r =
        { r with
          functions :=
            (signatures.map DeclaredSignature.function).foldl Table.erase r.functions } := by
    induction signatures generalizing r with
    | nil => rfl
    | cons d signatures ih => exact ih _
  rw [Lookup.withdraw, folded]

/-- When the signatures are withdrawn, all that was declared is gone. -/
theorem Looks.withdraw {signatures : List DeclaredSignature} {s' : Session}
    (h : Looks (signatures.map DeclaredSignature.function) s s')
    (frees : ∀ d ∈ signatures, s.Frees s' d.function) :
    Looks [] s (Lookup.withdraw s' signatures) := by
  rw [withdraw_eq]
  refine ⟨h.templates, h.instances, h.trace, h.bodiless, fun hash f known => ?_,
    fun hash f known => ?_⟩
  · by_cases member : hash ∈ signatures.map DeclaredSignature.function
    · -- A signature came in its place, so it had been lost before.
      obtain ⟨d, isDeclared, rfl⟩ := List.mem_map.mp member
      rcases frees d isDeclared with free | lists
      · cases known.symm.trans free
      · exact .inr lists
    · exact (h.kept hash f known).imp_left (Registry.get?_foldl_erase_of_not_mem member).trans
  · rcases h.origin hash f (Registry.get?_of_foldl_erase known) with before | ⟨same, fills | member⟩
    · exact .inl before
    · exact .inr ⟨same, .inl fills⟩
    · cases known.symm.trans (Registry.get?_foldl_erase_of_mem member)

/-- What is known when a call has been ranked: if a signature won, it is withdrawn and can be
declared again; otherwise the function that was selected is registered. -/
structure Ranked (s s' : Session) (call : CallResolution) (winner? : Option DeclaredSignature) :
    Prop where
  winner : ∀ d, winner? = some d → call.resolution.selected? = some d.function ∧ s'.Declared d
  registered : winner? = none → s.registry.SoundFunctions →
    ∀ hash, call.resolution.selected? = some hash → (s'.registry.function? hash).isSome

theorem ranked_withdraw {declared : DeclaredCandidates} {s' : Session}
    (h : Looks (declared.signatures.map DeclaredSignature.function) s s') (resolution : Resolution)
    (selects : s'.registry.SoundFunctions → ∀ hash, resolution.selected? = some hash →
      (s'.registry.function? hash).isSome)
    (allDeclared : ∀ d ∈ declared.signatures, s.Declared d) :
    Ranked s (Lookup.withdraw s' declared.signatures) ⟨resolution, declared.rejected⟩
      (declared.signatures.find? fun d => resolution.selected? == some d.function) where
  winner d found := by
    have member := List.mem_of_find?_eq_some found
    have isDeclared := allDeclared d member
    refine ⟨by simpa using List.find?_some found, ?_, ?_⟩
    · rw [withdraw_eq]
      exact (h.instances _).trans isDeclared.unbuilt
    · obtain ⟨t, known, rest⟩ := isDeclared.complete
      refine ⟨t, ?_, rest⟩
      rw [withdraw_eq]
      show s'.registry.functionTemplates.get? d.template = some t
      rw [h.templates.1]
      exact known
  registered none sound hash selected := by
    rw [withdraw_eq]
    have outside : hash ∉ declared.signatures.map DeclaredSignature.function := by
      intro member
      obtain ⟨d, isDeclared, rfl⟩ := List.mem_map.mp member
      exact absurd (by simpa using selected) (List.find?_eq_none.mp none d isDeclared)
    show ((_ : Table TypeHash FunctionDecl).get? hash).isSome
    rw [Registry.get?_foldl_erase_of_not_mem outside]
    exact selects (h.soundFunctions sound) hash selected

/-- Ranking leaves class instances behind, and nothing else. -/
theorem rankCall_looks (s : Session) (callee : Identifier) (scope : Scope) (arguments : Arguments)
    (object : ImplicitObject) :
    ∃ outcome s', exec (Lookup.rankCall callee scope arguments object) s = (outcome, s') ∧
      Looks [] s s' ∧
      ∀ call winner?, outcome = .ok (call, winner?) → Ranked s s' call winner? := by
  have looked := Looks.tracksLookup.resolve scope callee s
  rw [Lookup.rankCall, exec_bind]
  rcases resolved : exec (Lookup.resolve scope callee) s with ⟨e | found, s₁⟩
  · rw [resolved] at looked
    exact ⟨_, s₁, rfl, looked, fun _ _ h => nomatch h⟩
  · rw [resolved] at looked
    simp only []
    rw [exec_bind_ok (exec_get s₁), exec_bind, exec_ofExcept]
    cases Lookup.callees s₁.registry callee found with
    | error e => exact ⟨_, s₁, rfl, looked, fun _ _ h => nomatch h⟩
    | ok callees =>
      simp only []
      obtain ⟨declared, s₂, ran, lookedAll, allDeclared⟩ := declareAll_looks s₁ callees.explicit
        arguments.dataTypes callees.templates
      have all := looked.trans lookedAll
      rw [exec_bind_ok ran, exec_bind_ok (exec_get s₂), exec_bind_ok (exec_modify _ _)]
      refine ⟨_, _, rfl, all.withdraw fun d member => ?_, fun call winner? h => ?_⟩
      · exact looked.frees_of_later lookedAll.trace (allDeclared d member).2
      · cases h
        exact ranked_withdraw all _
          (fun sound hash => Resolution.isSome_function?_of_selected? sound)
          fun d member => (allDeclared d member).1.of_looks looked

end Session

end ScriptSemantics
