import ScriptSemantics.Proofs.Session.Growth
import ScriptSemantics.Proofs.Template.Completion

/-!
# Instances Are Built Once

A request completes its arguments, and the template with the completed list is its key. Once a
request for a key has returned an instance, every later request for that key returns the same one
and changes nothing, at whatever point of the run it is made: between operations, in the middle of
body compilers, at the limit of nesting. It follows that no key of a function is completed twice.
-/

namespace ScriptSemantics

/-! ## Requests and their keys -/

/-- The actions that request an instance for explicit arguments, from outside or from a body. -/
inductive Requests :
    InstanceKind → TypeHash → List TemplateArgument → InstantiationM TypeHash → Prop
  | classType (template : TypeHash) (explicit : List TemplateArgument) :
      Requests .classType template explicit (instantiateClass template explicit)
  | function (template : TypeHash) (explicit : List TemplateArgument) :
      Requests .function template explicit (instantiateFunction template explicit)
  | within (levels : Nat) (template : TypeHash) (explicit : List TemplateArgument) :
      Requests .function template explicit (instantiateFunctionWithin levels template explicit)

namespace Session

/-- The key of a request. -/
def key? (s : Session) (kind : InstanceKind) (template : TypeHash)
    (explicit : List TemplateArgument) : Option InstanceKey :=
  match s.registry.interface? kind template with
  | none => none
  | some (params, path) =>
    match ({ registry := s.registry, template, path } : CompletionContext).complete params
      explicit [] with
    | .ok arguments => some { template, arguments }
    | .error _ => none

variable {s : Session} {kind : InstanceKind} {template : TypeHash}
  {explicit : List TemplateArgument} {key : InstanceKey}

theorem key?_eq_some_iff :
    s.key? kind template explicit = some key ↔
      key.template = template ∧ ∃ params path,
        s.registry.interface? kind template = some (params, path) ∧
          ({ registry := s.registry, template, path } : CompletionContext).complete params
            explicit [] = .ok key.arguments := by
  constructor
  · intro keyed
    unfold key? at keyed
    split at keyed
    · cases keyed
    · rename_i params path known
      split at keyed
      · rename_i arguments completed
        cases keyed
        exact ⟨rfl, params, path, known, completed⟩
      · cases keyed
  · rintro ⟨rfl, params, path, known, completed⟩
    simp only [key?, known, completed]

end Session

/-- A request with a key is a request for the instance of that key. -/
theorem Requests.exec_eq {kind : InstanceKind} {template : TypeHash}
    {explicit : List TemplateArgument} {action : InstantiationM TypeHash}
    (request : Requests kind template explicit action) {s : Session} {key : InstanceKey}
    (keyed : s.key? kind template explicit = some key) :
    ∃ build, exec action s = exec (instantiateOnce kind key build) s := by
  obtain ⟨rfl, params, path, known, completed⟩ := Session.key?_eq_some_iff.1 keyed
  -- For function templates it does not matter how deep the request may nest.
  have within : ∀ levels, kind = .function → ∃ build,
      exec (instantiateFunctionWithin levels key.template explicit) s =
        exec (instantiateOnce .function key build) s := by
    rintro levels rfl
    obtain ⟨t, found, interface⟩ := Option.map_eq_some_iff.1 known
    cases interface
    have arguments : exec (completeArguments key.template explicit []) s =
        (.ok key.arguments, s) := by
      rw [exec_completeArguments found, completed]
    rw [instantiateFunctionWithin, exec_bind_ok (exec_functionTemplate found),
      exec_bind_ok arguments]
    exact ⟨_, rfl⟩
  cases request with
  | classType =>
    obtain ⟨t, found, interface⟩ := Option.map_eq_some_iff.1 known
    cases interface
    have arguments : completedFor s.registry key.template t explicit = .ok key.arguments :=
      completed
    rw [exec_instantiateClass]
    simp only [found, arguments]
    exact ⟨_, rfl⟩
  | function =>
    rw [instantiateFunction, exec_bind_ok (exec_get s)]
    exact within _ rfl
  | within levels => exact within levels rfl

/-- What was returned for a key is on record. -/
theorem get?_of_exec_instantiateOnce {s s' : Session} {kind : InstanceKind} {key : InstanceKey}
    {build : InstantiationM TypeHash} {hash : TypeHash}
    (returned : exec (instantiateOnce kind key build) s = (.ok hash, s')) :
    (s'.cache kind).get? key = some hash := by
  rcases exec_instantiateOnce_cases s kind key build with
    ⟨known, found, ran⟩ | ⟨canOpen, ran⟩ | ⟨-, e, ran⟩
  · rw [ran] at returned
    cases returned
    exact found
  · rw [ran] at returned
    obtain ⟨outcome, rfl⟩ := Prod.mk.inj returned
    rw [outcome, Session.get?_closed_ok, if_pos ⟨rfl, rfl⟩]
  · rw [ran] at returned
    cases returned

/-! ## Along a run -/

namespace Session

/-- No key is both completed and in progress, and each completion was counted once. -/
structure Tidy (s : Session) : Prop where
  exclusive : ∀ kind key, s.isCompleted kind key → (s.cache kind).isInProgress key = false
  counted : s.Counted

theorem IsFresh.tidy {s : Session} (fresh : s.IsFresh) : s.Tidy := by
  have empty : ∀ kind, s.cache kind = {} := by
    intro kind
    cases kind with
    | function => exact fresh.functionInstances
    | classType => exact fresh.classInstances
  constructor
  · intro kind key _
    rw [empty kind]
    rfl
  · intro kind key
    have never : s.isCompleted kind key = false := by
      rw [isCompleted, empty kind]
      rfl
    simp [never, completions, fresh.trace]

/-- Tidy sessions stay tidy and forget neither templates nor instances. -/
def Remembers (s s' : Session) : Prop :=
  s.Tidy → s'.Tidy ∧
    (∀ kind template interface, s.registry.interface? kind template = some interface →
      s'.registry.interface? kind template = some interface) ∧
    ∀ kind key hash, (s.cache kind).get? key = some hash → (s'.cache kind).get? key = some hash

theorem Remembers.refl (s : Session) : Remembers s s :=
  fun tidy => ⟨tidy, fun _ _ _ found => found, fun _ _ _ found => found⟩

theorem Remembers.trans (a b c : Session) (h : Remembers a b) (h' : Remembers b c) :
    Remembers a c := by
  intro tidy
  obtain ⟨tidy₁, templates₁, instances₁⟩ := h tidy
  obtain ⟨tidy₂, templates₂, instances₂⟩ := h' tidy₁
  exact ⟨tidy₂, fun _ _ _ found => templates₂ _ _ _ (templates₁ _ _ _ found),
    fun _ _ _ found => instances₂ _ _ _ (instances₁ _ _ _ found)⟩

theorem Grows.remembers {s s' : Session} (h : Grows s s') : Remembers s s' := by
  intro tidy
  refine ⟨⟨?_, h.counted tidy.counted⟩, h.templates, h.completed⟩
  intro kind key done
  rw [InstanceCache.isInProgress, h.inProgress kind]
  rcases h.fresh kind key done with before | idle
  · exact tidy.exclusive kind key before
  · exact idle

/-- A key that is opened was not completed. -/
theorem remembers_opened (s : Session) (kind : InstanceKind) (key : InstanceKey)
    (canOpen : s.CanOpen kind key) : Remembers s (s.opened kind key) := by
  intro tidy
  refine ⟨⟨?_, counted_opened tidy.counted⟩, ?_, ?_⟩
  · intro other k done
    rw [isCompleted, get?_opened] at done
    have idle := tidy.exclusive other k done
    rw [InstanceCache.isInProgress_eq_false_iff] at idle ⊢
    rw [cache_opened]
    split
    · -- Only the opened key is new among those in progress.
      rename_i same
      subst same
      rw [InstanceCache.inProgress_start _ _ canOpen.idle, List.mem_cons, not_or]
      refine ⟨?_, idle⟩
      rintro rfl
      rw [canOpen.unbuilt] at done
      cases done
    · exact idle
  · intro other template interface found
    cases kind <;> exact found
  · intro other k hash found
    rw [get?_opened]
    exact found

/-- A key that is closed was in progress, so it was not completed; now it is no longer in
progress. -/
theorem remembers_closed (s : Session) (kind : InstanceKind) (key : InstanceKey)
    (outcome : Except TemplateError TypeHash) (inside : (s.cache kind).isInProgress key) :
    Remembers s (s.closed kind key outcome) := by
  intro tidy
  have unbuilt : (s.cache kind).get? key = none := by
    cases found : (s.cache kind).get? key with
    | none => rfl
    | some hash =>
      have idle := tidy.exclusive kind key (by rw [isCompleted, found]; rfl)
      rw [inside] at idle
      cases idle
  refine ⟨⟨?_, counted_closed outcome unbuilt tidy.counted⟩, ?_, ?_⟩
  · intro other k done
    rw [InstanceCache.isInProgress_eq_false_iff, inProgress_closed]
    by_cases same : other = kind ∧ k = key
    · obtain ⟨rfl, rfl⟩ := same
      simp [InstanceCache.abandon]
    · have before := isCompleted_of_closed outcome same done
      have idle := (InstanceCache.isInProgress_eq_false_iff _ _).1 (tidy.exclusive other k before)
      split
      · intro member
        exact idle (List.mem_of_mem_filter member)
      · exact idle
  · intro other template interface found
    cases outcome <;> cases kind <;> exact found
  · intro other k hash found
    exact get?_closed_of_get? outcome unbuilt found

/-- By induction on the run, one move at a time. -/
theorem Later.remembers {s s' : Session} (later : s.Later .all s') : Remembers s s' := by
  refine later.lift Remembers.refl Remembers.trans fun a b move => ?_
  refine move.lift Grows.tracks (fun _ _ grows => grows.remembers) Remembers.trans ?_ ?_ ?_ ?_
  · exact fun s r changes => (Grows.registry s changes).remembers
  · exact fun s _ tidy => ⟨⟨tidy.exclusive, tidy.counted⟩, fun _ _ _ h => h, fun _ _ _ h => h⟩
  · exact fun s key canOpen => remembers_opened s .function key canOpen
  · exact fun s key outcome inside => remembers_closed s .function key outcome inside

/-- A key stays the key of its own argument list as long as its template is known. -/
theorem key?_of_remembered {s s' : Session} {kind : InstanceKind} {template : TypeHash}
    {explicit : List TemplateArgument} {key : InstanceKey}
    (keyed : s.key? kind template explicit = some key)
    (templates : ∀ interface, s.registry.interface? kind template = some interface →
      s'.registry.interface? kind template = some interface) :
    s'.key? kind key.template key.arguments = some key := by
  obtain ⟨rfl, params, path, known, completed⟩ := key?_eq_some_iff.1 keyed
  -- A list that fills all parameters is completed without a look at defaults or types, so it does
  -- not matter what else has become of the registry.
  have filled := CompletionContext.fills_of_complete completed
  exact key?_eq_some_iff.2 ⟨rfl, params, path, templates _ known,
    CompletionContext.complete_of_fills filled⟩

end Session

/-! ## Memoization -/

/-- Once a request has returned an instance for its key, every request for that key at any later
point of the run returns that instance and leaves the session as it is; the completed list itself is
such a request. And no key of a function template is completed more than once. -/
theorem instantiation_memoized {s₀ s s₁ s₂ : Session} (fresh : s₀.IsFresh)
    (run : s₀.Later .all s) {kind : InstanceKind} {template : TypeHash}
    {explicit : List TemplateArgument} {action : InstantiationM TypeHash} {key : InstanceKey}
    {hash : TypeHash} (request : Requests kind template explicit action)
    (keyed : s.key? kind template explicit = some key)
    (returned : exec action s = (.ok hash, s₁)) (later : s₁.Later .all s₂) :
    s₂.key? kind key.template key.arguments = some key ∧
      (∀ explicit' action', Requests kind key.template explicit' action' →
        s₂.key? kind key.template explicit' = some key → exec action' s₂ = (.ok hash, s₂)) ∧
      ∀ key', s₂.completions .function key' ≤ 1 := by
  obtain ⟨build, asOnce⟩ := request.exec_eq keyed
  -- The first request puts the instance on record, and keeps a tidy session tidy.
  have grows : Session.Grows s s₁ := by
    cases request with
    | classType =>
      simpa only [returned] using Session.Grows.tracks.instantiateClass template explicit s
    | function =>
      simpa only [returned] using Session.Grows.tracks.instantiateFunction template explicit s
    | within levels =>
      simpa only [returned] using
        Session.Grows.tracks.instantiateFunctionWithin levels template explicit s
  have onRecord : (s₁.cache kind).get? key = some hash := by
    rw [asOnce] at returned
    exact get?_of_exec_instantiateOnce returned
  obtain ⟨tidy, -, -⟩ := run.remembers fresh.tidy
  obtain ⟨tidy₁, -, -⟩ := grows.remembers tidy
  obtain ⟨tidy₂, templates, instances⟩ := later.remembers tidy₁
  refine ⟨?_, ?_, ?_⟩
  · refine Session.key?_of_remembered keyed fun interface known => ?_
    exact templates _ _ _ (grows.templates _ _ _ known)
  · -- The later request comes down to the same key, which is still on record.
    intro explicit' action' request' keyed'
    obtain ⟨build', again⟩ := request'.exec_eq keyed'
    rw [again]
    exact exec_instantiateOnce_found build' (instances _ _ _ onRecord)
  · intro key'
    rw [tidy₂.counted .function key']
    split <;> omega

/-! A session that allows one level of nesting, with a script template of one integer parameter. -/

def countdown : FunctionTemplate where
  name := "countdown"
  qualifiedName := "countdown"
  hash := ⟨1⟩
  params := [{ name := "N", kind := .integer, typeHash := ⟨2⟩ }]
  backend := .script 0

def shallowSession : Session where
  registry := { functionTemplates := { entries := [(⟨1⟩, countdown)] } }
  bodyCompiler := some fun _ => .finish (.script 0)
  maxDepth := 1

/-- The instance for 1 is built. -/
def shallowBuilt : Session := (exec (instantiateFunction ⟨1⟩ [.integer 1]) shallowSession).2

/-- The signature of the instance for 2 is registered, and its body is about to be compiled. -/
def shallowDeclared : Session :=
  (exec (registerSignature countdown [.integer 2])
    (shallowBuilt.opened .function ⟨⟨1⟩, [.integer 2]⟩)).2

/-- The body of the instance for 2 is being compiled. -/
def shallowInside : Session :=
  shallowDeclared.record (.compiled 0 ⟨1⟩ (.ofTemplateInstance ⟨1⟩ [.integer 2]) [.integer 2] 1)

theorem shallowInside_later : shallowBuilt.Later .all shallowInside := by
  have opened : exec (openInstance .function ⟨⟨1⟩, [.integer 2]⟩) shallowBuilt =
      (.ok none, shallowBuilt.opened .function ⟨⟨1⟩, [.integer 2]⟩) := rfl
  have registered : exec (registerSignature countdown [.integer 2])
      (shallowBuilt.opened .function ⟨⟨1⟩, [.integer 2]⟩) =
        (.ok (.templateInstance ⟨1⟩ [.integer 2] "countdown" "" none [] .void),
          shallowDeclared) := rfl
  exact .single (.enterBody 0 opened registered)

/-- The instance for 1 is found from inside the body of the instance for 2, where the limit of
nesting is reached. -/
theorem instantiation_memoized_shallow :
    exec (instantiateFunction ⟨1⟩ [.integer 1]) shallowSession =
        (.ok (.ofTemplateInstance ⟨1⟩ [.integer 1]), shallowBuilt) ∧
      shallowBuilt.Later .all shallowInside ∧ shallowInside.depth = shallowInside.maxDepth ∧
      exec (instantiateFunctionWithin 0 ⟨1⟩ [.integer 1]) shallowInside =
        (.ok (.ofTemplateInstance ⟨1⟩ [.integer 1]), shallowInside) := by
  have fresh : shallowSession.IsFresh := ⟨rfl, rfl, rfl, rfl⟩
  have keyed : shallowSession.key? .function ⟨1⟩ [.integer 1] = some ⟨⟨1⟩, [.integer 1]⟩ := rfl
  have returned : exec (instantiateFunction ⟨1⟩ [.integer 1]) shallowSession =
      (.ok (.ofTemplateInstance ⟨1⟩ [.integer 1]), shallowBuilt) := rfl
  have memoized := instantiation_memoized fresh .refl (.function ⟨1⟩ [.integer 1]) keyed returned
    shallowInside_later
  exact ⟨returned, shallowInside_later, rfl, memoized.2.1 _ _ (.within 0 ⟨1⟩ _) memoized.1⟩

end ScriptSemantics
