import ScriptSemantics.Proofs.Registry.Changes
import ScriptSemantics.Session.Instantiation

/-!
# How Instances Are Built

The equations of instantiation: a request completes its arguments and then finds, refuses or builds
the instance of its key. Building a class instance asks the host, registers the class, and registers
the members in turn; the first member that is refused undoes the class.
-/

namespace ScriptSemantics

/-! ## One instance for each key -/

/-- No instance, no construction in progress, and room for one more level. -/
structure Session.CanOpen (s : Session) (kind : InstanceKind) (key : InstanceKey) : Prop where
  unbuilt : (s.cache kind).get? key = none
  idle : (s.cache kind).isInProgress key = false
  room : s.depth < s.maxDepth

theorem exec_openInstance_of_canOpen {s : Session} {kind : InstanceKind} {key : InstanceKey}
    (h : s.CanOpen kind key) : exec (openInstance kind key) s = (.ok none, s.opened kind key) := by
  rw [openInstance, exec_bind_ok (exec_get s)]
  simp only [h.unbuilt, h.idle, Nat.not_le.2 h.room]
  rfl

/-- Construction starts only where it can. -/
theorem canOpen_of_exec_openInstance {s s' : Session} {kind : InstanceKind} {key : InstanceKey}
    (h : exec (openInstance kind key) s = (.ok none, s')) :
    s.CanOpen kind key ∧ s' = s.opened kind key := by
  rw [openInstance, exec_bind_ok (exec_get s)] at h
  cases found : (s.cache kind).get? key with
  | some hash =>
    simp only [found] at h
    cases h
  | none =>
    by_cases busy : (s.cache kind).isInProgress key
    · simp only [found, busy] at h
      cases h
    · by_cases full : s.maxDepth ≤ s.depth
      · simp only [found, busy, full] at h
        cases h
      · simp only [found, busy, full] at h
        cases h
        exact ⟨⟨found, by simpa using busy, by omega⟩, rfl⟩

/-- A known instance is returned and nothing else happens. -/
theorem exec_instantiateOnce_found {s : Session} {kind : InstanceKind} {key : InstanceKey}
    {hash : TypeHash} (build : InstantiationM TypeHash)
    (found : (s.cache kind).get? key = some hash) :
    exec (instantiateOnce kind key build) s = (.ok hash, s) := by
  have opened : exec (openInstance kind key) s = (.ok (some hash), s) := by
    rw [openInstance, exec_bind_ok (exec_get s)]
    simp only [found]
    rfl
  rw [instantiateOnce, exec_bind_ok opened]
  rfl

/-- Where construction can start, the instance is built one level deeper and then recorded or
given up. -/
theorem exec_instantiateOnce_built {s : Session} {kind : InstanceKind} {key : InstanceKey}
    (build : InstantiationM TypeHash) (h : s.CanOpen kind key) :
    exec (instantiateOnce kind key build) s =
      ((exec build (s.opened kind key)).1,
        (exec build (s.opened kind key)).2.closed kind key (exec build (s.opened kind key)).1) := by
  rw [instantiateOnce, exec_bind_ok (exec_openInstance_of_canOpen h)]
  show exec (attempt build >>= closeInstance kind key) (s.opened kind key) = _
  rw [exec_bind_ok (exec_attempt (s.opened kind key) build), closeInstance,
    exec_bind_ok (exec_modify _ _), exec_ofExcept]

/-- A request for a key finds its instance, or builds it, or is refused and does nothing. -/
theorem exec_instantiateOnce_cases (s : Session) (kind : InstanceKind) (key : InstanceKey)
    (build : InstantiationM TypeHash) :
    (∃ hash, (s.cache kind).get? key = some hash ∧
        exec (instantiateOnce kind key build) s = (.ok hash, s)) ∨
      (s.CanOpen kind key ∧ exec (instantiateOnce kind key build) s =
        ((exec build (s.opened kind key)).1,
          (exec build (s.opened kind key)).2.closed kind key
            (exec build (s.opened kind key)).1)) ∨
      (¬s.CanOpen kind key ∧ ∃ e, exec (instantiateOnce kind key build) s = (.error e, s)) := by
  cases found : (s.cache kind).get? key with
  | some hash => exact .inl ⟨hash, rfl, exec_instantiateOnce_found build found⟩
  | none =>
    by_cases canOpen : s.CanOpen kind key
    · exact .inr (.inl ⟨canOpen, exec_instantiateOnce_built build canOpen⟩)
    · -- In progress already, or too deep.
      have refused : ∃ e, exec (openInstance kind key) s = (.error e, s) := by
        rw [openInstance, exec_bind_ok (exec_get s)]
        by_cases busy : (s.cache kind).isInProgress key
        · simp only [found, busy]
          exact ⟨_, rfl⟩
        · rcases Nat.lt_or_ge s.depth s.maxDepth with room | full
          · exact absurd ⟨found, by simpa using busy, room⟩ canOpen
          · simp only [found, busy, full]
            exact ⟨_, rfl⟩
      obtain ⟨e, refused⟩ := refused
      exact .inr (.inr ⟨canOpen, e, by rw [instantiateOnce, exec_bind_error refused]⟩)

/-! ## Requests for class instances -/

/-- The arguments of a request, completed for a class template. -/
def completedFor (r : Registry) (template : TypeHash) (t : ClassTemplate)
    (explicit : List TemplateArgument) : Except TemplateError (List TemplateArgument) :=
  ({ registry := r, template, path := t.path } : CompletionContext).complete t.params explicit []

/-- A request either fails before any instance is looked for, or comes down to its key. -/
theorem exec_instantiateClass (template : TypeHash) (explicit : List TemplateArgument)
    (s : Session) :
    exec (instantiateClass template explicit) s =
      match s.registry.classTemplate? template with
      | none => (.error (.unknownTemplate template), s)
      | some t =>
        match completedFor s.registry template t explicit with
        | .error e => (.error e, s)
        | .ok arguments =>
          exec (instantiateOnce .classType { template, arguments } (buildClass t arguments)) s := by
  rw [instantiateClass, exec_bind_ok (exec_get s)]
  cases found : s.registry.classTemplate? template with
  | none =>
    simp only [found]
    rfl
  | some t =>
    simp only [found]
    show exec (ofExcept (completedFor s.registry template t explicit) >>= _) s = _
    rw [exec_bind, exec_ofExcept]
    cases completedFor s.registry template t explicit <;> rfl

/-! ## Building a class instance -/

/-- The built-in list type adds nothing to its instances. -/
theorem fillElementList_eq {arguments : List TemplateArgument} {made filled : ClassInstance}
    (h : fillElementList arguments made = .ok filled) : filled = made := by
  unfold fillElementList at h
  split at h
  · split at h
    · cases h
    · cases h
      rfl
  · cases h

namespace ClassTemplate

/-- The declaration of an instance as the host receives it. -/
def instanceDecl (t : ClassTemplate) (arguments : List TemplateArgument) : ClassDecl :=
  .templateInstance t.path (t.instanceName arguments) t.hash arguments

/-- What the host makes of an instance. -/
def filled (t : ClassTemplate) (arguments : List TemplateArgument) : Except String ClassInstance :=
  match t.backend with
  | .elementList => fillElementList arguments { decl := t.instanceDecl arguments }
  | .host fill => fill arguments { decl := t.instanceDecl arguments }

/-- The session after the host was asked. -/
def asked (t : ClassTemplate) (arguments : List TemplateArgument) (s : Session) : Session :=
  match t.backend with
  | .elementList => s
  | .host _ => s.record (.filled (t.instanceDecl arguments).qualifiedName arguments)

theorem exec_fillInstance (t : ClassTemplate) (arguments : List TemplateArgument) (s : Session) :
    exec (fillInstance t arguments { decl := t.instanceDecl arguments }) s =
      ((t.filled arguments).mapError (.instantiationFailed t.hash), t.asked arguments s) := by
  unfold fillInstance filled asked
  cases t.backend with
  | elementList => exact exec_ofHost s t.hash _
  | host fill => exact exec_ofHost _ t.hash _

/-- Only the trace tells that the host was asked. -/
theorem asked_registry (t : ClassTemplate) (arguments : List TemplateArgument) (s : Session) :
    (t.asked arguments s).registry = s.registry := by
  unfold asked
  split <;> rfl

theorem asked_cache (t : ClassTemplate) (arguments : List TemplateArgument)
    (s : Session) (kind : InstanceKind) : (t.asked arguments s).cache kind = s.cache kind := by
  unfold asked
  split
  · rfl
  · cases kind <;> rfl

end ClassTemplate

/-- Register a filled instance with its members. -/
def registerInstance (template : TypeHash) (made : ClassInstance) : InstantiationM TypeHash := do
  let hash ← registering template (Registry.registerType (.classType made.decl))
  registerMembers template hash made.functions
  return hash

/-- Where the identity is free the class enters, and the members follow. -/
theorem exec_registerInstance_free {s : Session} (template : TypeHash) {made : ClassInstance}
    (free : s.registry.type? made.decl.hash = none) :
    exec (registerInstance template made) s =
      match exec (registerMembers template made.decl.hash made.functions)
        { s with registry := s.registry.addType (.classType made.decl) } with
      | (.ok _, s') => (.ok made.decl.hash, s')
      | (.error e, s') => (.error e, s') := by
  have entered : exec (Registry.registerType (.classType made.decl)) s.registry =
      (.ok made.decl.hash, s.registry.addType (.classType made.decl)) :=
    Registry.exec_registerType_free free
  have accepted : exec (registering template (Registry.registerType (.classType made.decl))) s =
      (.ok made.decl.hash, { s with registry := s.registry.addType (.classType made.decl) }) := by
    rw [exec_registering, entered]
    rfl
  rw [registerInstance, exec_bind_ok accepted]
  simp only [exec_bind, exec_pure]
  rcases exec (registerMembers template made.decl.hash made.functions)
    { s with registry := s.registry.addType (.classType made.decl) } with ⟨e | _, s'⟩ <;> rfl

/-- Where the identity is taken the class is refused, and no member is looked at. -/
theorem exec_registerInstance_taken {s : Session} (template : TypeHash) {made : ClassInstance}
    (taken : (s.registry.type? made.decl.hash).isSome) :
    ∃ e, exec (registerInstance template made) s = (.error e, s) := by
  obtain ⟨existing, known⟩ := Option.isSome_iff_exists.mp taken
  have refused : exec (Registry.registerType (.classType made.decl)) s.registry =
      (.error (.duplicateType ((TypeDecl.classType made.decl).name?.getD "<anonymous>")),
        s.registry) := by
    rw [Registry.exec_registerType]
    simp only [TypeDecl.hash, known]
    rfl
  have refused' : ∃ e,
      exec (registering template (Registry.registerType (.classType made.decl))) s =
        (.error e, s) := by
    rw [exec_registering, refused]
    exact ⟨_, rfl⟩
  obtain ⟨e, refused'⟩ := refused'
  exact ⟨e, by rw [registerInstance, exec_bind_error refused']⟩

/-- An identity that is taken is returned as it is. Otherwise the host is asked, and its answer
registered. -/
theorem exec_buildClass (t : ClassTemplate) (arguments : List TemplateArgument) (s : Session) :
    exec (buildClass t arguments) s =
      if (s.registry.type? (t.instanceDecl arguments).hash).isSome then
        (.ok (t.instanceDecl arguments).hash, s)
      else
        match t.filled arguments with
        | .error reason =>
          (.error (.instantiationFailed t.hash reason), t.asked arguments s)
        | .ok made => exec (registerInstance t.hash made) (t.asked arguments s) := by
  rw [buildClass, exec_bind_ok (exec_get s)]
  by_cases taken : (s.registry.type? (t.instanceDecl arguments).hash).isSome
  · rw [if_pos taken]
    show exec (if (s.registry.type? (t.instanceDecl arguments).hash).isSome then _ else _) s = _
    rw [if_pos taken]
    rfl
  · rw [if_neg taken]
    show exec (if (s.registry.type? (t.instanceDecl arguments).hash).isSome then _ else _) s = _
    rw [if_neg taken]
    show exec (fillInstance t arguments { decl := t.instanceDecl arguments } >>= _) s = _
    rw [exec_bind, t.exec_fillInstance]
    cases t.filled arguments <;> rfl

/-- Members are registered without loss, except that the class goes if one of them is refused. -/
theorem exec_registerMembers_cases {permits : Permits} (template hash : TypeHash)
    (fs : List FunctionDecl) (s : Session) :
    ∃ r, Registry.Changes permits s.registry r ∧
      (exec (registerMembers template hash fs) s = (.ok ⟨⟩, { s with registry := r }) ∨
        ∃ e, exec (registerMembers template hash fs) s =
          (.error e, { s with registry := (r.removeType hash).2 })) := by
  induction fs generalizing s with
  | nil => exact ⟨s.registry, .refl _, .inl rfl⟩
  | cons f fs ih =>
    have entered : Registry.Changes permits s.registry _ :=
      Registry.registerFunction_changes f s.registry
    rw [registerMembers, exec_bind_ok (exec_attempt s _), exec_registering]
    rcases registered : exec (Registry.registerFunction f) s.registry with ⟨cause | _, r₁⟩
    · rw [registered] at entered
      exact ⟨r₁, entered, .inr ⟨_, rfl⟩⟩
    · rw [registered] at entered
      obtain ⟨r, changes, outcome⟩ := ih { s with registry := r₁ }
      exact ⟨r, .trans _ _ _ entered changes, outcome⟩

end ScriptSemantics
