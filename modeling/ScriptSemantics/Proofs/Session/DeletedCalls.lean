import ScriptSemantics.Proofs.Overload.Marks
import ScriptSemantics.Proofs.Session.Calls

/-!
# Calls of Deleted Functions

A call chooses among the functions that its callee offers and the signatures of function templates.
None of these is left out for being marked as deleted, and the mark plays no part in the choice. So
a call selects a deleted function exactly if a deleted one is the best of its candidates. That is
never an instance of a function template, as long as no host marks one as deleted.

The main statement is `Lookup.selected_deleted_iff`.
-/

namespace ScriptSemantics

/-! ## Hosts and the marks they give -/

/-- Hosts leave to the registry what is its own: the lists of members of a class, and the identity
of a function instance. -/
structure Registry.TrustedHosts (r : Registry) : Prop where
  lists : r.LeavesLists
  identity : ∀ template t, r.functionTemplate? template = some t → t.backend.KeepsIdentity

theorem Registry.TrustedHosts.of_sameTemplates {r r' : Registry} (hosts : r.TrustedHosts)
    (same : SameTemplates r r') : r'.TrustedHosts := by
  constructor
  · intro template t found
    rw [classTemplate?, same.2] at found
    exact hosts.lists template t found
  · intro template t found
    rw [functionTemplate?, same.1] at found
    exact hosts.identity template t found

/-- The host adjusts signatures without marking them as deleted. -/
def FunctionBackend.LeavesUndeleted : FunctionBackend → Prop
  | .native hooks => ∀ adjust, hooks.adjust? = some adjust →
      ∀ arguments f f', adjust arguments f = .ok f' → ¬f.isDeleted → ¬f'.isDeleted
  | .script _ => True

/-- No host marks the instances of its function template as deleted. -/
def Registry.LeavesUndeleted (r : Registry) : Prop :=
  ∀ template t, r.functionTemplate? template = some t → t.backend.LeavesUndeleted

theorem Registry.LeavesUndeleted.of_sameTemplates {r r' : Registry} (marks : r.LeavesUndeleted)
    (same : SameTemplates r r') : r'.LeavesUndeleted := by
  intro template t found
  rw [functionTemplate?, same.1] at found
  exact marks template t found

theorem not_isDeleted_of_instanceSignature {t : FunctionTemplate}
    (marks : t.backend.LeavesUndeleted) {arguments : List TemplateArgument} {s s' : Session}
    {f : FunctionDecl} (h : exec (instanceSignature t arguments) s = (.ok f, s')) :
    ¬f.isDeleted := by
  obtain ⟨params, returnType, rfl | ⟨hooks, adjust, host, adjusts, adjusted⟩⟩ :=
    instanceSignature_cases h
  · exact Bool.false_ne_true
  · rw [host] at marks
    exact marks adjust adjusts _ _ _ adjusted Bool.false_ne_true

theorem not_isDeleted_of_registerSignature {t : FunctionTemplate}
    (marks : t.backend.LeavesUndeleted) {arguments : List TemplateArgument} {s s' : Session}
    {f : FunctionDecl} (h : exec (registerSignature t arguments) s = (.ok f, s')) :
    ¬f.isDeleted := by
  rw [registerSignature] at h
  obtain ⟨f', s₁, substituted, registering⟩ := exec_bind_eq_ok h
  obtain ⟨_, s₂, -, returned⟩ := exec_bind_eq_ok registering
  cases returned
  exact not_isDeleted_of_instanceSignature marks substituted

namespace Session

variable {s s' : Session}

/-! ## Signatures of a call -/

/-- The signature that is declared for a call is registered, and not as deleted. -/
theorem undeleted_of_declareInstance (marks : s.registry.LeavesUndeleted)
    {template function : TypeHash} {explicit arguments : List TemplateArgument}
    {types : List DataType}
    (ran : exec (declareInstance template explicit types) s =
      (.ok (.signature function arguments), s')) :
    ∃ f, s'.registry.function? function = some f ∧ ¬f.isDeleted := by
  rcases exec_declareInstance_cases s template explicit types with
    ⟨e, ran'⟩ | ⟨function', ran'⟩ | ⟨t, completed, found, -, -, ran'⟩
  · cases ran.symm.trans ran'
  · cases ran.symm.trans ran'
  · rw [ran', declareSignature] at ran
    obtain ⟨f, s₁, substituted, ran⟩ := exec_bind_eq_ok ran
    rw [exec_bind_ok (exec_get s₁)] at ran
    rw [substituteTemplate, exec_bind_ok (exec_functionTemplate found)] at substituted
    have undeleted := not_isDeleted_of_instanceSignature (marks template t found) substituted
    split at ran
    · cases ran
    · rcases registering_cases template f s₁ with ⟨e, refused⟩ | ⟨r, accepted, entered⟩
      · rw [exec_bind_error refused] at ran
        cases ran
      · rw [exec_bind_ok accepted] at ran
        cases ran
        exact ⟨f, entered.found, undeleted⟩

theorem looks_of_declareInstance {template : TypeHash}
    {explicit : List TemplateArgument} {types : List DataType}
    {outcome : Except TemplateError DeclaredInstance}
    (ran : exec (declareInstance template explicit types) s = (outcome, s')) :
    ∃ declared, Looks declared s s' := by
  rcases declareInstance_cases s template explicit types with
    ⟨_, _, ran', looked, -⟩ | ⟨_, _, _, ran', looked, -⟩
  · cases ran.symm.trans ran'
    exact ⟨_, looked⟩
  · cases ran.symm.trans ran'
    exact ⟨_, looked⟩

/-- All signatures that are declared for a call are registered when its candidates are ranked, and
none as deleted. -/
theorem undeleted_of_declareAll (hosts : s.registry.TrustedHosts)
    (marks : s.registry.LeavesUndeleted) {explicit : List TemplateArgument} {types : List DataType}
    {templates : List TypeHash} {declared : DeclaredCandidates}
    (ran : exec (Lookup.declareAll explicit types templates) s = (.ok declared, s')) :
    ∀ d ∈ declared.signatures, ∃ f, s'.registry.function? d.function = some f ∧ ¬f.isDeleted := by
  induction templates generalizing s s' declared with
  | nil =>
    cases ran
    intro d member
    cases member
  | cons template templates ih =>
    rw [Lookup.declareAll, exec_bind_ok (exec_attempt s _)] at ran
    rcases one : exec (declareInstance template explicit types) s with ⟨outcome, s₁⟩
    rw [one] at ran
    obtain ⟨rest, s₂, ranRest, last⟩ := exec_bind_eq_ok ran
    obtain ⟨_, looked⟩ := looks_of_declareInstance one
    have hosts₁ := hosts.of_sameTemplates looked.templates
    have others := ih hosts₁ (marks.of_sameTemplates looked.templates) ranRest
    rcases outcome with e | (function | ⟨function, arguments⟩)
    · cases last
      exact others
    · cases last
      exact others
    · cases last
      intro d member
      rcases List.mem_cons.mp member with rfl | later
      · -- The signature stays as it is while the others are declared.
        obtain ⟨f, registered, undeleted⟩ := undeleted_of_declareInstance marks one
        obtain ⟨_, _, ranRest', lookedRest, -⟩ := declareAll_looks s₁ explicit types templates
        cases ranRest.symm.trans ranRest'
        have kept := (lookedRest.kept _ f registered).resolve_right (not_lists hosts₁.lists _)
        exact ⟨f, kept, undeleted⟩
      · exact others d later

end Session

namespace Lookup

variable {callee : Identifier} {scope : Scope} {arguments : Arguments} {object : ImplicitObject}
  {s : Session}

/-! ## The candidates of a call -/

/-- The candidates of a call when they are ranked, in the session `t`: the functions that the callee
offers, and those that its templates declare. -/
def Gathers (callee : Identifier) (scope : Scope) (arguments : Arguments) (s : Session)
    (callees : Callees) (declared : DeclaredCandidates) (t : Session) : Prop :=
  ∃ result u, exec (resolve scope callee) s = (.ok result, u) ∧
    Lookup.callees u.registry callee result = .ok callees ∧
    exec (declareAll callees.explicit arguments.dataTypes callees.templates) u = (.ok declared, t)

/-- A ranking is a resolution among the candidates, whose signatures are withdrawn afterwards. -/
theorem gathers_of_rankCall {call : CallResolution} {winner? : Option DeclaredSignature}
    {s' : Session}
    (ran : exec (rankCall callee scope arguments object) s = (.ok (call, winner?), s')) :
    ∃ callees declared t, Gathers callee scope arguments s callees declared t ∧
      call.resolution =
        Resolution.resolve t.registry object (callees.functions ++ declared.functions) arguments ∧
      winner? = declared.signatures.find? (fun d => call.resolution.selected? == some d.function) ∧
      s' = withdraw t declared.signatures := by
  rw [rankCall] at ran
  obtain ⟨result, u, resolved, offering⟩ := exec_bind_eq_ok ran
  rw [exec_bind_ok (exec_get u)] at offering
  obtain ⟨callees, u', offered, declaring⟩ := exec_bind_eq_ok offering
  rw [exec_ofExcept] at offered
  obtain ⟨declared, t, declares, ranking⟩ := exec_bind_eq_ok declaring
  rw [exec_bind_ok (exec_get t), exec_bind_ok (exec_modify _ _)] at ranking
  obtain ⟨offers, rfl⟩ := Prod.mk.inj offered
  cases ranking
  exact ⟨callees, declared, t, ⟨result, u, resolved, offers, declares⟩, rfl, rfl, rfl⟩

namespace Gathers

variable {callees : Callees} {declared : DeclaredCandidates} {t : Session}

/-- Up to the ranking, class instances are built and the signatures of the call are registered. -/
theorem looks (h : Gathers callee scope arguments s callees declared t) :
    Session.Looks (declared.signatures.map DeclaredSignature.function) s t := by
  obtain ⟨result, u, resolved, -, declaring⟩ := h
  have looked := Session.Looks.tracksLookup.resolve scope callee s
  rw [resolved] at looked
  obtain ⟨_, _, declaring', lookedAll, -⟩ := Session.declareAll_looks u callees.explicit
    arguments.dataTypes callees.templates
  cases declaring.symm.trans declaring'
  exact looked.trans lookedAll

theorem undeleted (h : Gathers callee scope arguments s callees declared t)
    (hosts : s.registry.TrustedHosts) (marks : s.registry.LeavesUndeleted) :
    ∀ d ∈ declared.signatures, ∃ f, t.registry.function? d.function = some f ∧ ¬f.isDeleted := by
  obtain ⟨result, u, resolved, -, declaring⟩ := h
  have looked := Session.Looks.tracksLookup.resolve scope callee s
  rw [resolved] at looked
  exact Session.undeleted_of_declareAll (hosts.of_sameTemplates looked.templates)
    (marks.of_sameTemplates looked.templates) declaring

end Gathers

/-! ## The winner -/

/-- A call that succeeds after a signature has won has built the instance, which is not deleted. -/
theorem undeleted_of_winner (hosts : s.registry.TrustedHosts) (marks : s.registry.LeavesUndeleted)
    {ranked call : CallResolution} {winner : DeclaredSignature} {s₁ s' : Session}
    (won : exec (rankCall callee scope arguments object) s = (.ok (ranked, some winner), s₁))
    (ran : exec (resolveCall callee scope arguments object) s = (.ok call, s')) :
    call = ranked ∧ ∃ f, s'.registry.function? winner.function = some f ∧ ¬f.isDeleted := by
  obtain ⟨_, _, won', looked, facts⟩ := Session.rankCall_looks s callee scope arguments object
  cases won.symm.trans won'
  obtain ⟨-, isDeclared⟩ := (facts ranked (some winner) rfl).winner winner rfl
  have hosts₁ := hosts.of_sameTemplates looked.templates
  rcases exec_instantiateFunction_declared isDeclared with
    ⟨e, refused⟩ | ⟨t, levels, outcome, s₂, found, identity, -, built, instantiated⟩
  · have failed := exec_resolveCallWith_winner won refused
    cases ran.symm.trans failed
  · have resolved := exec_resolveCallWith_winner won instantiated
    rcases Session.buildFunction_cases (Session.FunctionsKept.instantiateFunctionWithin levels)
      (s₁.opened .function ⟨winner.template, winner.arguments⟩) t winner.arguments with
      ⟨e, s₃, failed, -⟩ | ⟨f, u, answer, u', final, asks, -, settled⟩
    · cases built.symm.trans failed
      cases ran.symm.trans resolved
    · cases built.symm.trans settled
      cases final with
      | error e => cases ran.symm.trans resolved
      | ok body =>
        cases ran.symm.trans resolved
        have isWinner : winner.function = f.hash := by
          rw [identity (hosts₁.identity _ _ found), asks.identity (hosts₁.identity _ _ found)]
        have undeleted := not_isDeleted_of_registerSignature
          (marks.of_sameTemplates looked.templates _ _ found) asks.signature
        refine ⟨rfl, { f with body := body }, ?_, undeleted⟩
        rw [Session.registry_closed, Registry.function?_settled, if_pos isWinner]
        rfl

/-- Withdrawing the signatures leaves the selected function alone, unless it is one of them. -/
theorem function?_withdraw {t : Session} {signatures : List DeclaredSignature} {hash : TypeHash}
    (noWinner : signatures.find? (fun d => some hash == some d.function) = none) :
    (withdraw t signatures).registry.function? hash = t.registry.function? hash := by
  have outside : hash ∉ signatures.map DeclaredSignature.function := by
    intro member
    obtain ⟨d, isDeclared, rfl⟩ := List.mem_map.mp member
    exact absurd (by simp) (List.find?_eq_none.mp noWinner d isDeclared)
  rw [Session.withdraw_eq]
  exact Registry.get?_foldl_erase_of_not_mem outside

/-- A call that succeeds gives the result of its ranking. Whether the selected function is deleted
does not change between the ranking and the end of the call. -/
theorem deleted_iff_of_ran (hosts : s.registry.TrustedHosts) (marks : s.registry.LeavesUndeleted)
    {call : CallResolution} {s' : Session}
    (ran : exec (resolveCall callee scope arguments object) s = (.ok call, s')) :
    ∃ callees declared t, Gathers callee scope arguments s callees declared t ∧
      call.resolution =
        Resolution.resolve t.registry object (callees.functions ++ declared.functions) arguments ∧
      ∀ hash, call.resolution.selected? = some hash →
        ((∃ f, s'.registry.function? hash = some f ∧ f.isDeleted) ↔
          ∃ f, t.registry.function? hash = some f ∧ f.isDeleted) := by
  rcases won : exec (rankCall callee scope arguments object) s with ⟨e | ⟨ranked, winner?⟩, s₁⟩
  · rw [resolveCall, resolveCallWith, exec_bind_error won] at ran
    cases ran
  · obtain ⟨callees, declared, t, gathers, resolution, isWinner, withdrawn⟩ :=
      gathers_of_rankCall won
    refine ⟨callees, declared, t, gathers, ?_⟩
    cases winner? with
    | none =>
      rw [resolveCall, resolveCallWith, exec_bind_ok won] at ran
      cases ran
      refine ⟨resolution, fun hash selected => ?_⟩
      rw [selected] at isWinner
      rw [withdrawn, function?_withdraw isWinner.symm]
    | some winner =>
      obtain ⟨rfl, f, registered, undeleted⟩ := undeleted_of_winner hosts marks won ran
      refine ⟨resolution, fun hash selected => ?_⟩
      have member := List.mem_of_find?_eq_some isWinner.symm
      have isSelected : hash = winner.function := by
        simpa [selected] using List.find?_some isWinner.symm
      obtain ⟨g, declaredAs, unmarked⟩ := gathers.undeleted hosts marks winner member
      -- An instance of a template is not deleted, neither as a signature nor with its body.
      subst isSelected
      constructor
      · rintro ⟨f', registered', deleted⟩
        cases registered.symm.trans registered'
        exact absurd deleted undeleted
      · rintro ⟨g', declaredAs', deleted⟩
        cases declaredAs.symm.trans declaredAs'
        exact absurd deleted unmarked

/-! ## The main statement -/

/-- A call that succeeds selects a deleted function exactly if a deleted one is the best of its
candidates. The marks have no part in that: with any others on the candidates that are no
constructors or casts, the call is resolved in the same way. -/
theorem selected_deleted_iff (functions : s.registry.SoundFunctions)
    (hosts : s.registry.TrustedHosts) (marks : s.registry.LeavesUndeleted) {call : CallResolution}
    {s' : Session} (ran : exec (resolveCall callee scope arguments object) s = (.ok call, s')) :
    ∃ callees declared t, Gathers callee scope arguments s callees declared t ∧
      (∀ r, t.registry.Remarked r →
        Resolution.resolve r object (callees.functions ++ declared.functions) arguments =
          call.resolution) ∧
      ∀ hash,
        (call.resolution.selected? = some hash ∧
            ∃ f, s'.registry.function? hash = some f ∧ f.isDeleted) ↔
          ∃ f i c, t.registry.function? hash = some f ∧ f.isDeleted ∧
            (callees.functions ++ declared.functions)[i]? = some hash ∧
            Resolution.BestAt t.registry object (callees.functions ++ declared.functions) arguments
              i c := by
  obtain ⟨callees, declared, t, gathers, resolution, unchanged⟩ :=
    deleted_iff_of_ran hosts marks ran
  have sound : t.registry.SoundFunctions := gathers.looks.soundFunctions functions
  refine ⟨callees, declared, t, gathers, fun r remarked => ?_, fun hash => ?_⟩
  · rw [remarked.resolve_remarked, resolution]
  · have best : call.resolution.selected? = some hash ↔
        ∃ i c, (callees.functions ++ declared.functions)[i]? = some hash ∧
          Resolution.BestAt t.registry object (callees.functions ++ declared.functions) arguments
            i c := by
      rw [resolution]
      exact Resolution.selected?_eq_some_iff sound
    constructor
    · rintro ⟨selected, deleted⟩
      obtain ⟨f, registered, isDeleted⟩ := (unchanged hash selected).mp deleted
      obtain ⟨i, c, isThere, isBest⟩ := best.mp selected
      exact ⟨f, i, c, registered, isDeleted, isThere, isBest⟩
    · rintro ⟨f, i, c, registered, isDeleted, isThere, isBest⟩
      have selected := best.mpr ⟨i, c, isThere, isBest⟩
      exact ⟨selected, (unchanged hash selected).mpr ⟨f, registered, isDeleted⟩⟩

/-- Two overloads of `open`: a deleted function for `int`, and a template for `float`. -/
def opening : Session where
  registry := {
    types := { entries := [
      (FundamentalKind.int.hash, .fundamental .int),
      (FundamentalKind.float.hash, .fundamental .float)] }
    functions := { entries := [
      (⟨11⟩, {
        hash := ⟨11⟩
        name := "open"
        params := [{ dataType := .ofKind .int }]
        traits := { isDeleted := true } })] }
    functionTemplates := { entries := [
      (⟨1⟩, {
        name := "open"
        qualifiedName := "open"
        hash := ⟨1⟩
        signature := [{ dataType := .ofKind .float }]
        backend := .script 0 })] }
    namespaces := { nodes := [{ names := {
      functions := { entries := [("open", [⟨11⟩])] }
      functionTemplates := { entries := [("open", [⟨1⟩])] } } }] } }

theorem opening_soundFunctions : opening.registry.SoundFunctions := by
  intro hash f found
  have member := Table.mem_entries_of_get? found
  simp only [opening, List.mem_singleton, Prod.mk.injEq] at member
  obtain ⟨rfl, rfl⟩ := member
  rfl

/-- The only template has a script for a body, so no host has a say in a signature. -/
theorem opening_scripts {template : TypeHash} {t : FunctionTemplate}
    (found : opening.registry.functionTemplate? template = some t) : t.backend = .script 0 := by
  have member := Table.mem_entries_of_get? found
  simp only [opening, List.mem_singleton, Prod.mk.injEq] at member
  rw [member.2]

theorem opening_trustedHosts : opening.registry.TrustedHosts where
  lists template t found := by cases found
  identity template t found := by
    rw [opening_scripts found]
    trivial

theorem opening_leavesUndeleted : opening.registry.LeavesUndeleted := by
  intro template t found
  rw [opening_scripts found]
  trivial

/-- Called with an `int`, both overloads are viable and the deleted one is selected. -/
theorem exec_opening :
    ∃ call s', exec (resolveCall (.simple "open") .global (.types [.ofKind .int]) .none) opening =
        (.ok call, s') ∧
      (call.resolution.reports.map fun report => report.2.isViable) = [true, true] ∧
      call.resolution.selected? = some ⟨11⟩ ∧
      ∃ f, s'.registry.function? ⟨11⟩ = some f ∧ f.isDeleted := by
  have viable : (exec (resolveCall (.simple "open") .global (.types [.ofKind .int]) .none)
      opening).1.map (fun call => call.resolution.reports.map fun report => report.2.isViable) =
        .ok [true, true] := by
    cbv
  have selected : (exec (resolveCall (.simple "open") .global (.types [.ofKind .int]) .none)
      opening).1.map (fun call => call.resolution.selected?) = .ok (some ⟨11⟩) := by
    cbv
  have registered : ((exec (resolveCall (.simple "open") .global (.types [.ofKind .int]) .none)
      opening).2.registry.function? ⟨11⟩).map FunctionDecl.isDeleted = some true := by
    cbv
  rcases ran : exec (resolveCall (.simple "open") .global (.types [.ofKind .int]) .none) opening
    with ⟨outcome, s'⟩
  rw [ran] at viable selected registered
  cases outcome with
  | error e => cases selected
  | ok call =>
    exact ⟨call, s', rfl, Except.ok.inj viable, Except.ok.inj selected,
      Option.map_eq_some_iff.mp registered⟩

/-- The deleted function is the best of two candidates. -/
theorem selected_deleted_iff_opening :
    opening.registry.SoundFunctions ∧ opening.registry.TrustedHosts ∧
      opening.registry.LeavesUndeleted ∧
      ∃ callees declared t f i c, Gathers (.simple "open") .global (.types [.ofKind .int]) opening
          callees declared t ∧
        t.registry.function? ⟨11⟩ = some f ∧ f.isDeleted ∧
        (callees.functions ++ declared.functions)[i]? = some ⟨11⟩ ∧
        Resolution.BestAt t.registry .none (callees.functions ++ declared.functions)
          (.types [.ofKind .int]) i c := by
  obtain ⟨call, s', ran, -, selected, deleted⟩ := exec_opening
  obtain ⟨callees, declared, t, gathers, -, exactly⟩ := selected_deleted_iff opening_soundFunctions
    opening_trustedHosts opening_leavesUndeleted ran
  obtain ⟨f, i, c, best⟩ := (exactly ⟨11⟩).mp ⟨selected, deleted⟩
  exact ⟨opening_soundFunctions, opening_trustedHosts, opening_leavesUndeleted, callees, declared,
    t, f, i, c, gathers, best⟩

/-- Not every call that succeeds selects a function that may be called. -/
theorem call_selects_deleted :
    ¬∀ (s s' : Session) (callee : Identifier) (scope : Scope) (arguments : Arguments)
      (object : ImplicitObject) (call : CallResolution) (hash : TypeHash) (f : FunctionDecl),
      exec (resolveCall callee scope arguments object) s = (.ok call, s') →
        call.resolution.selected? = some hash → s'.registry.function? hash = some f →
          ¬f.isDeleted := by
  intro safe
  obtain ⟨call, s', ran, -, selected, f, registered, deleted⟩ := exec_opening
  exact safe _ _ _ _ _ _ _ _ _ ran selected registered deleted

end Lookup

end ScriptSemantics
