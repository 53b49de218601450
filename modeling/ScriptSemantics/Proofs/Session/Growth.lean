import ScriptSemantics.Proofs.Session.Moves

/-!
# What a Request Leaves Behind

A request that has come back, with whatever outcome, has added completed instances and nothing more
to the books of the session: nesting and constructions in progress are as before, instances
completed earlier are kept, none of the constructions in progress was completed behind the back of
whoever is at work on it, and each completion stands in the trace once. `Session.Grows` states this,
and everything a session does is shown to respect it.
-/

namespace ScriptSemantics

/-! ## Caches -/

namespace InstanceCache

variable (cache : InstanceCache) (key other : InstanceKey) (hash : TypeHash)

@[simp] theorem get?_start : (cache.start key).get? other = cache.get? other := by
  unfold start
  split <;> rfl

theorem get?_finish :
    (cache.finish key hash).get? other = if other = key then some hash else cache.get? other :=
  Table.get?_insert cache.instances key hash other

theorem inProgress_start (idle : cache.isInProgress key = false) :
    (cache.start key).inProgress = key :: cache.inProgress := by
  simp [start, idle]

theorem isInProgress_iff : cache.isInProgress key = true ↔ key ∈ cache.inProgress := by
  simp [isInProgress]

theorem isInProgress_eq_false_iff : cache.isInProgress key = false ↔ key ∉ cache.inProgress := by
  simp [isInProgress]

/-- A construction that was opened and ended leaves no mark among those in progress. -/
theorem inProgress_start_abandon (idle : cache.isInProgress key = false) :
    ((cache.start key).abandon key).inProgress = cache.inProgress := by
  have absent := (cache.isInProgress_eq_false_iff key).1 idle
  simp only [abandon, inProgress_start cache key idle, ne_eq, decide_not]
  rw [List.filter_cons_of_neg (by simp)]
  refine List.filter_eq_self.2 fun k member => ?_
  have other : k ≠ key := by
    rintro rfl
    exact absent member
  simpa using other

end InstanceCache

namespace Session

variable (s : Session) (kind : InstanceKind) (key : InstanceKey)

/-! ## The books -/

theorem cache_opened (other : InstanceKind) :
    (s.opened kind key).cache other =
      if other = kind then (s.cache other).start key else s.cache other := by
  cases kind <;> cases other <;> rfl

theorem cache_closed_ok (hash : TypeHash) (other : InstanceKind) :
    (s.closed kind key (.ok hash)).cache other =
      if other = kind then (s.cache other).finish key hash else s.cache other := by
  cases kind <;> cases other <;> rfl

theorem cache_closed_error (e : TemplateError) (other : InstanceKind) :
    (s.closed kind key (.error e)).cache other =
      if other = kind then (s.cache other).abandon key else s.cache other := by
  cases kind <;> cases other <;> rfl

theorem registry_closed (outcome : Except TemplateError TypeHash) :
    (s.closed kind key outcome).registry = s.registry := by
  cases outcome <;> cases kind <;> rfl

/-- Whether a key was completed. -/
def isCompleted : Bool := ((s.cache kind).get? key).isSome

/-- How often the trace tells that a key was completed. -/
def completions : Nat := s.trace.countP fun
  | .completed k done _ => k = kind ∧ done = key
  | _ => false

/-- Each completed key was completed once, and no other was. -/
def Counted : Prop :=
  ∀ kind key, s.completions kind key = if s.isCompleted kind key then 1 else 0

theorem completions_record (event : SessionEvent) (host : event.isHost) :
    (s.record event).completions kind key = s.completions kind key := by
  cases event with
  | completed => cases host
  | adjusted | produced | filled | compiled | called => simp [completions, record]

theorem completions_closed_ok (key' : InstanceKey) (hash : TypeHash) (kind' : InstanceKind) :
    (s.closed kind key (.ok hash)).completions kind' key' =
      s.completions kind' key' + if kind' = kind ∧ key' = key then 1 else 0 := by
  cases kind <;> cases kind' <;>
    simp [completions, closed, record, modifyCache, List.countP_append, eq_comm]

/-! ## Growth -/

/-- What requests that have come back may have done. -/
structure Grows (s s' : Session) : Prop where
  depth : s'.depth = s.depth
  inProgress : ∀ kind, (s'.cache kind).inProgress = (s.cache kind).inProgress
  templates : ∀ kind template interface, s.registry.interface? kind template = some interface →
    s'.registry.interface? kind template = some interface
  completed : ∀ kind key hash, (s.cache kind).get? key = some hash →
    (s'.cache kind).get? key = some hash
  /-- What is completed anew was not in progress before. -/
  fresh : ∀ kind key, s'.isCompleted kind key →
    s.isCompleted kind key ∨ (s.cache kind).isInProgress key = false
  counted : s.Counted → s'.Counted

namespace Grows

theorem refl : Grows s s where
  depth := rfl
  inProgress _ := rfl
  templates _ _ _ found := found
  completed _ _ _ found := found
  fresh _ _ done := .inl done
  counted h := h

theorem trans (a b c : Session) (h : Grows a b) (h' : Grows b c) : Grows a c where
  depth := h'.depth.trans h.depth
  inProgress kind := (h'.inProgress kind).trans (h.inProgress kind)
  templates _ _ _ found := h'.templates _ _ _ (h.templates _ _ _ found)
  completed _ _ _ found := h'.completed _ _ _ (h.completed _ _ _ found)
  fresh kind key done := by
    rcases h'.fresh kind key done with before | idle
    · exact h.fresh kind key before
    · right
      rw [InstanceCache.isInProgress, ← h.inProgress kind]
      exact idle
  counted counts := h'.counted (h.counted counts)

theorem registry {r : Registry} (changes : Registry.Changes .all s.registry r) :
    Grows s { s with registry := r } where
  depth := rfl
  inProgress _ := rfl
  templates _ _ _ found := changes.interface? found
  completed _ _ _ found := found
  fresh _ _ done := .inl done
  counted h := h

theorem record (event : SessionEvent) (host : event.isHost) : Grows s (s.record event) where
  depth := rfl
  inProgress _ := rfl
  templates _ _ _ found := found
  completed _ _ _ found := found
  fresh _ _ done := .inl done
  counted counts kind key := by
    rw [completions_record s kind key event host]
    exact counts kind key

end Grows

/-! ## Constructions -/

section Constructions

variable {s kind key}

/-- Opening a construction completes nothing. -/
theorem get?_opened (other : InstanceKind) (k : InstanceKey) :
    ((s.opened kind key).cache other).get? k = (s.cache other).get? k := by
  rw [cache_opened]
  split
  · rw [InstanceCache.get?_start]
  · rfl

theorem counted_opened (counts : s.Counted) : (s.opened kind key).Counted := by
  intro other k
  have trace : (s.opened kind key).completions other k = s.completions other k := by
    cases kind <;> rfl
  have same : (s.opened kind key).isCompleted other k = s.isCompleted other k := by
    rw [isCompleted, get?_opened, isCompleted]
  rw [trace, counts other k, same]

/-- Closing a construction completes its own key if it succeeded. -/
theorem get?_closed_ok (hash : TypeHash) (other : InstanceKind) (k : InstanceKey) :
    ((s.closed kind key (.ok hash)).cache other).get? k =
      if other = kind ∧ k = key then some hash else (s.cache other).get? k := by
  rw [cache_closed_ok]
  by_cases same : other = kind
  · rw [if_pos same, InstanceCache.get?_finish]
    simp only [same, true_and]
  · simp only [same, if_false, false_and]

theorem get?_closed_error (e : TemplateError) (other : InstanceKind) (k : InstanceKey) :
    ((s.closed kind key (.error e)).cache other).get? k = (s.cache other).get? k := by
  rw [cache_closed_error]
  split <;> rfl

/-- A key that was not completed is counted from the moment it is. -/
theorem counted_closed (outcome : Except TemplateError TypeHash)
    (unbuilt : (s.cache kind).get? key = none) (counts : s.Counted) :
    (s.closed kind key outcome).Counted := by
  intro other k
  cases outcome with
  | error e =>
    have trace : (s.closed kind key (.error e)).completions other k = s.completions other k := by
      cases kind <;> rfl
    have same : (s.closed kind key (.error e)).isCompleted other k = s.isCompleted other k := by
      rw [isCompleted, get?_closed_error, isCompleted]
    rw [trace, counts other k, same]
  | ok hash =>
    rw [completions_closed_ok, counts other k]
    by_cases same : other = kind ∧ k = key
    · obtain ⟨rfl, rfl⟩ := same
      have before : s.isCompleted other k = false := by simp [isCompleted, unbuilt]
      have after : (s.closed other k (.ok hash)).isCompleted other k = true := by
        simp [isCompleted, get?_closed_ok]
      simp [before, after]
    · have kept : (s.closed kind key (.ok hash)).isCompleted other k = s.isCompleted other k := by
        rw [isCompleted, get?_closed_ok, if_neg same, isCompleted]
      rw [kept, if_neg same, Nat.add_zero]

theorem inProgress_closed (outcome : Except TemplateError TypeHash) (other : InstanceKind) :
    ((s.closed kind key outcome).cache other).inProgress =
      if other = kind then ((s.cache other).abandon key).inProgress
      else (s.cache other).inProgress := by
  cases outcome with
  | ok hash =>
    rw [cache_closed_ok]
    split <;> rfl
  | error e =>
    rw [cache_closed_error]
    split <;> rfl

/-- What was completed stays completed when another key is closed. -/
theorem get?_closed_of_get? (outcome : Except TemplateError TypeHash)
    (unbuilt : (s.cache kind).get? key = none) {other : InstanceKind} {k : InstanceKey}
    {hash : TypeHash} (found : (s.cache other).get? k = some hash) :
    ((s.closed kind key outcome).cache other).get? k = some hash := by
  cases outcome with
  | error e => rwa [get?_closed_error]
  | ok made =>
    have different : ¬(other = kind ∧ k = key) := by
      rintro ⟨rfl, rfl⟩
      rw [unbuilt] at found
      cases found
    rwa [get?_closed_ok, if_neg different]

/-- Closing a key completes no other. -/
theorem isCompleted_of_closed (outcome : Except TemplateError TypeHash) {other : InstanceKind}
    {k : InstanceKey} (different : ¬(other = kind ∧ k = key))
    (done : (s.closed kind key outcome).isCompleted other k) : s.isCompleted other k := by
  cases outcome with
  | error e => rwa [isCompleted, get?_closed_error] at done
  | ok made => rwa [isCompleted, get?_closed_ok, if_neg different] at done

/-- Opening a key takes no other out of progress. -/
theorem idle_of_opened {other : InstanceKind} {k : InstanceKey}
    (idle : ((s.opened kind key).cache other).isInProgress k = false) :
    (s.cache other).isInProgress k = false := by
  rw [InstanceCache.isInProgress_eq_false_iff] at idle ⊢
  intro member
  refine idle ?_
  rw [cache_opened]
  split
  · unfold InstanceCache.start
    split
    · exact member
    · exact List.mem_cons_of_mem _ member
  · exact member

/-- While a key is open nothing inside can complete it. -/
theorem Grows.unbuilt_inside {s₁ : Session} (canOpen : s.CanOpen kind key)
    (inside : Grows (s.opened kind key) s₁) : (s₁.cache kind).get? key = none := by
  have here : ((s.opened kind key).cache kind).isInProgress key := by
    rw [cache_opened, if_pos rfl, InstanceCache.isInProgress_iff,
      InstanceCache.inProgress_start _ _ canOpen.idle]
    exact List.mem_cons_self
  cases found : (s₁.cache kind).get? key with
  | none => rfl
  | some hash =>
    have done : s₁.isCompleted kind key := by simp [isCompleted, found]
    -- It was neither completed when the inside began, nor idle.
    rcases inside.fresh kind key done with before | idle
    · rw [isCompleted, get?_opened, canOpen.unbuilt] at before
      cases before
    · rw [here] at idle
      cases idle

/-- The construction of a key, around whatever happens inside. -/
theorem Grows.construction {s₁ : Session} (outcome : Except TemplateError TypeHash)
    (canOpen : s.CanOpen kind key) (inside : Grows (s.opened kind key) s₁) :
    Grows s (s₁.closed kind key outcome) := by
  have unbuilt := inside.unbuilt_inside canOpen
  refine ⟨?_, ?_, ?_, ?_, ?_, ?_⟩
  · -- One level down and one level up again.
    have level : (s₁.closed kind key outcome).depth = s₁.depth - 1 := by
      cases outcome <;> cases kind <;> rfl
    rw [level, inside.depth]
    cases kind <;> rfl
  · -- The inside leaves the key in progress, and closing takes out that one only.
    intro other
    rw [inProgress_closed]
    by_cases same : other = kind
    · subst same
      have start := inside.inProgress other
      rw [cache_opened, if_pos rfl] at start
      rw [if_pos rfl, InstanceCache.abandon, start]
      exact InstanceCache.inProgress_start_abandon _ key canOpen.idle
    · rw [if_neg same, inside.inProgress other, cache_opened, if_neg same]
  · intro other template interface found
    rw [registry_closed]
    refine inside.templates other template interface ?_
    cases kind <;> exact found
  · intro other k hash found
    refine get?_closed_of_get? outcome unbuilt (inside.completed other k hash ?_)
    rw [get?_opened]
    exact found
  · -- What is completed anew is the key itself, or was completed inside.
    intro other k done
    by_cases same : other = kind ∧ k = key
    · obtain ⟨rfl, rfl⟩ := same
      exact .inr canOpen.idle
    · rcases inside.fresh other k (isCompleted_of_closed outcome same done) with before | idle
      · left
        rwa [isCompleted, get?_opened] at before
      · exact .inr (idle_of_opened idle)
  · intro counts
    exact counted_closed outcome unbuilt (inside.counted (counted_opened counts))

theorem Grows.instantiateOnce (kind : InstanceKind) (key : InstanceKey)
    {build : InstantiationM TypeHash} (h : Respects Grows build) :
    Respects Grows (instantiateOnce kind key build) := by
  intro s
  rcases exec_instantiateOnce_cases s kind key build with
    ⟨hash, -, ran⟩ | ⟨canOpen, ran⟩ | ⟨-, e, ran⟩
  · rw [ran]
    exact .refl s
  · rw [ran]
    exact .construction _ canOpen (h (s.opened kind key))
  · rw [ran]
    exact .refl s

end Constructions

/-! ## Everything grows -/

namespace Grows

theorem registerInstance (template : TypeHash) (made : ClassInstance) :
    Respects Grows (registerInstance template made) := by
  intro s
  have entered : Registry.Changes .all s.registry _ :=
    Registry.registerType_changes (.classType made.decl) s.registry
  rw [ScriptSemantics.registerInstance, exec_bind, exec_registering]
  rcases registered : exec (Registry.registerType (.classType made.decl)) s.registry with
    ⟨cause | hash, r⟩
  · rw [registered] at entered
    exact .registry s entered
  · rw [registered] at entered
    refine .trans _ _ _ (.registry s entered) ?_
    show Grows { s with registry := r }
      (exec (registerMembers template hash made.functions >>= _) { s with registry := r }).2
    rw [exec_bind]
    obtain ⟨r', changes, outcome⟩ := @exec_registerMembers_cases .all template hash made.functions
      { s with registry := r }
    rcases outcome with done | ⟨e, undone⟩
    · rw [done]
      exact .registry _ changes
    · -- The class goes again, but no template goes with it.
      rw [undone]
      exact .registry _ (.trans _ _ _ changes (Registry.removeType_changes trivial r' hash))

theorem buildClass (t : ClassTemplate) (arguments : List TemplateArgument) :
    Respects Grows (buildClass t arguments) := by
  intro s
  have asked : Grows s (t.asked arguments s) := by
    unfold ClassTemplate.asked
    split
    · exact .refl s
    · exact .record s _ rfl
  rw [exec_buildClass]
  split
  · exact .refl s
  · cases t.filled arguments with
    | error reason => exact asked
    | ok made => exact .trans _ _ _ asked (registerInstance t.hash made _)

theorem instantiateClass (template : TypeHash) (explicit : List TemplateArgument) :
    Respects Grows (instantiateClass template explicit) := by
  intro s
  rw [exec_instantiateClass]
  cases s.registry.classTemplate? template with
  | none => exact .refl s
  | some t =>
    cases completed : completedFor s.registry template t explicit with
    | error e => simpa only [completed] using Grows.refl s
    | ok arguments =>
      simp only [completed]
      exact instantiateOnce .classType _ (buildClass t arguments) s

/-- Whatever a session does, it only grows. -/
theorem tracks : Tracks Grows where
  refl := refl
  trans := trans
  record := record
  intern s _ := .registry s (Registry.intern_changes s.registry _)
  registerFunction s f := .registry s (Registry.registerFunction_changes f s.registry)
  updateFunction s f := .registry s (Registry.updateFunction_changes f s.registry)
  removeFunction s hash := .registry s (Registry.removeFunction_changes s.registry hash)
  instantiateClass := instantiateClass
  instantiateOnce s _ _ _ _ _ inside := instantiateOnce .function _ inside s

end Grows

end Session

end ScriptSemantics
