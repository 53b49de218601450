import ScriptSemantics.Proofs.Session.Memoization

/-!
# Constructions Are Bracketed

While an instance is under construction its builder and the host may ask for other instances, which
are then built inside it. This file follows a run through all its points, those inside hosts and
builders included.

A point is a session together with the constructions under way, innermost first. A run goes from
point to point in steps: an operation on the registry, an event, the start of a construction that
can be opened, or the end of the innermost one, with any outcome.

## Main statements

* `Point.Reaches.balanced`: at every point the keys in progress are those of the constructions under
  way, one for each level of nesting;
* `Session.Runs.tracks`: whatever a session is asked to do is a run that ends with the same
  constructions under way as it began with, and what it has completed was returned by a builder;
* `instantiation_bracketed`: both together, with the refusal of keys in progress.
-/

namespace ScriptSemantics

/-! ## Points and steps -/

/-- An instance under construction. -/
structure Construction where
  kind : InstanceKind
  key : InstanceKey
deriving DecidableEq

/-- The keys of one kind among some constructions. -/
def Construction.keysOf (kind : InstanceKind) (underWay : List Construction) : List InstanceKey :=
  underWay.filterMap fun c => if c.kind = kind then some c.key else none

/-- A session, and the constructions under way in it, innermost first. -/
structure Point where
  underWay : List Construction
  session : Session

namespace Point

/-- One step of a run. -/
inductive Step : Point → Point → Prop where
  | registry (underWay : List Construction) (s : Session) (op : RegistryOp) :
      Step ⟨underWay, s⟩ ⟨underWay, { s with registry := op.run s.registry }⟩
  | record (underWay : List Construction) (s : Session) (event : SessionEvent)
      (host : event.isHost) : Step ⟨underWay, s⟩ ⟨underWay, s.record event⟩
  | compiler (underWay : List Construction) (s : Session)
      (compiler : Option (BodyRequest → BodyPlan)) :
      Step ⟨underWay, s⟩ ⟨underWay, { s with bodyCompiler := compiler }⟩
  /-- The limit of nesting is an option of the whole session, so it changes between requests
  only. -/
  | limit (s : Session) (limit : Nat) : Step ⟨[], s⟩ ⟨[], { s with maxDepth := limit }⟩
  | start (underWay : List Construction) (s : Session) (c : Construction)
      (canOpen : s.CanOpen c.kind c.key) :
      Step ⟨underWay, s⟩ ⟨c :: underWay, s.opened c.kind c.key⟩
  | stop (underWay : List Construction) (s : Session) (c : Construction)
      (outcome : Except TemplateError TypeHash) :
      Step ⟨c :: underWay, s⟩ ⟨underWay, s.closed c.kind c.key outcome⟩

/-- A point that a run gets to. -/
def Reaches : Point → Point → Prop := Relation.ReflTransGen Step

end Point

/-! ## Balance -/

namespace Construction

variable {kind : InstanceKind} {underWay : List Construction}

theorem mem_keysOf {key : InstanceKey} : key ∈ keysOf kind underWay ↔ ⟨kind, key⟩ ∈ underWay := by
  simp only [keysOf, List.mem_filterMap, Option.ite_none_right_eq_some, Option.some.injEq]
  constructor
  · rintro ⟨⟨k, found⟩, member, rfl, rfl⟩
    exact member
  · intro member
    exact ⟨_, member, rfl, rfl⟩

theorem keysOf_cons (c : Construction) :
    keysOf kind (c :: underWay) =
      if c.kind = kind then c.key :: keysOf kind underWay else keysOf kind underWay := by
  by_cases same : c.kind = kind <;> simp [keysOf, same]

theorem nodup_keysOf (nodup : underWay.Nodup) : (keysOf kind underWay).Nodup := by
  induction underWay with
  | nil => simp [keysOf]
  | cons c underWay ih =>
    obtain ⟨fresh, rest⟩ := List.nodup_cons.1 nodup
    rw [keysOf_cons]
    split
    · rename_i same
      subst same
      exact List.nodup_cons.2 ⟨fun member => fresh (mem_keysOf.1 member), ih rest⟩
    · exact ih rest

/-- Every construction is of one of the two kinds. -/
theorem length_keysOf (underWay : List Construction) :
    (keysOf .function underWay).length + (keysOf .classType underWay).length =
      underWay.length := by
  induction underWay with
  | nil => simp [keysOf]
  | cons c underWay ih =>
    obtain ⟨kind, key⟩ := c
    cases kind with
    | function => simp [keysOf_cons]; omega
    | classType => simp [keysOf_cons]; omega

end Construction

namespace Point

open Construction

/-- The books of the session agree with the constructions under way. -/
structure Balanced (p : Point) : Prop where
  depth : p.session.depth = p.underWay.length
  inProgress : ∀ kind, (p.session.cache kind).inProgress = keysOf kind p.underWay
  nodup : p.underWay.Nodup
  within : p.session.depth ≤ p.session.maxDepth
  unbuilt : ∀ c ∈ p.underWay, (p.session.cache c.kind).get? c.key = none

theorem Balanced.isInProgress_iff {p : Point} (balanced : p.Balanced) {kind : InstanceKind}
    {key : InstanceKey} :
    (p.session.cache kind).isInProgress key ↔ ⟨kind, key⟩ ∈ p.underWay := by
  rw [InstanceCache.isInProgress_iff, balanced.inProgress, mem_keysOf]

theorem balanced_start {underWay : List Construction} {s : Session} {c : Construction}
    (canOpen : s.CanOpen c.kind c.key) (balanced : Balanced ⟨underWay, s⟩) :
    Balanced ⟨c :: underWay, s.opened c.kind c.key⟩ := by
  -- The key was not in progress, so its construction was not under way.
  have fresh : c ∉ underWay := by
    intro member
    have busy := balanced.isInProgress_iff.2 member
    simp [canOpen.idle] at busy
  have level : (s.opened c.kind c.key).depth = s.depth + 1 := by cases c.kind <;> rfl
  have limit : (s.opened c.kind c.key).maxDepth = s.maxDepth := by cases c.kind <;> rfl
  have room := canOpen.room
  have before := balanced.depth
  refine ⟨?_, ?_, List.nodup_cons.2 ⟨fresh, balanced.nodup⟩, ?_, ?_⟩
  · simp only [level, List.length_cons] at before ⊢
    omega
  · intro kind
    have keys := balanced.inProgress kind
    simp only [Session.cache_opened, keysOf_cons] at keys ⊢
    by_cases same : kind = c.kind
    · subst same
      rw [if_pos rfl, if_pos rfl, InstanceCache.inProgress_start _ _ canOpen.idle, keys]
    · rw [if_neg same, if_neg (Ne.symm same), keys]
  · simp only [level, limit]
    omega
  · intro d member
    simp only [Session.get?_opened]
    rcases List.mem_cons.1 member with rfl | inner
    · exact canOpen.unbuilt
    · exact balanced.unbuilt d inner

theorem balanced_stop {underWay : List Construction} {s : Session} {c : Construction}
    (outcome : Except TemplateError TypeHash) (balanced : Balanced ⟨c :: underWay, s⟩) :
    Balanced ⟨underWay, s.closed c.kind c.key outcome⟩ := by
  obtain ⟨fresh, rest⟩ := List.nodup_cons.1 balanced.nodup
  have level : (s.closed c.kind c.key outcome).depth = s.depth - 1 := by
    cases outcome <;> cases c.kind <;> rfl
  have limit : (s.closed c.kind c.key outcome).maxDepth = s.maxDepth := by
    cases outcome <;> cases c.kind <;> rfl
  have before := balanced.depth
  have bound := balanced.within
  refine ⟨?_, ?_, rest, ?_, ?_⟩
  · simp only [level, List.length_cons] at before ⊢
    omega
  · intro kind
    have keys := balanced.inProgress kind
    simp only [Session.inProgress_closed, keysOf_cons] at keys ⊢
    by_cases same : kind = c.kind
    · -- The innermost key goes, and it is no key of another construction.
      subst same
      rw [if_pos rfl] at keys ⊢
      rw [InstanceCache.abandon, keys, List.filter_cons_of_neg (by simp)]
      refine List.filter_eq_self.2 fun key member => ?_
      have other : key ≠ c.key := by
        rintro rfl
        exact fresh (mem_keysOf.1 member)
      simpa using other
    · rw [if_neg (Ne.symm same)] at keys
      rw [if_neg same, keys]
  · simp only [level, limit] at bound ⊢
    omega
  · intro d member
    have unbuilt := balanced.unbuilt d (List.mem_cons_of_mem _ member)
    have different : ¬(d.kind = c.kind ∧ d.key = c.key) := by
      rintro ⟨sameKind, sameKey⟩
      obtain ⟨kind, key⟩ := c
      obtain ⟨kind', key'⟩ := d
      simp only at sameKind sameKey
      subst sameKind sameKey
      exact fresh member
    cases outcome with
    | error e => simpa only [Session.get?_closed_error] using unbuilt
    | ok hash => simpa only [Session.get?_closed_ok, if_neg different] using unbuilt

theorem Step.balanced {p q : Point} (step : Step p q) (balanced : p.Balanced) : q.Balanced := by
  cases step with
  | registry | record | compiler =>
    exact ⟨balanced.depth, balanced.inProgress, balanced.nodup, balanced.within, balanced.unbuilt⟩
  | limit s limit =>
    -- Nothing is under way, so no limit is too low.
    have idle : s.depth = 0 := balanced.depth
    refine ⟨balanced.depth, balanced.inProgress, balanced.nodup, ?_, balanced.unbuilt⟩
    simp [idle]
  | start underWay s c canOpen => exact balanced_start canOpen balanced
  | stop underWay s c outcome => exact balanced_stop outcome balanced

/-- By induction on the run, one step at a time. -/
theorem Reaches.balanced {p q : Point} (run : p.Reaches q) (balanced : p.Balanced) :
    q.Balanced := by
  induction run with
  | refl => exact balanced
  | tail _ last ih => exact last.balanced ih

theorem balanced_of_isFresh {s : Session} (fresh : s.IsFresh) : Balanced ⟨[], s⟩ := by
  refine ⟨fresh.depth, ?_, List.nodup_nil, ?_, ?_⟩
  · intro kind
    cases kind with
    | function => simp [Session.cache, fresh.functionInstances, keysOf]
    | classType => simp [Session.cache, fresh.classInstances, keysOf]
  · simp [fresh.depth]
  · simp

/-! ## Events -/

/-- A step adds one event to the trace at most. -/
theorem Step.trace {p q : Point} (step : Step p q) :
    q.session.trace = p.session.trace ∨
      ∃ event, q.session.trace = p.session.trace ++ [event] := by
  cases step with
  | registry | compiler | limit => exact .inl rfl
  | record _ _ event => exact .inr ⟨event, rfl⟩
  | start _ _ c =>
    left
    cases c.kind <;> rfl
  | stop _ _ c outcome =>
    cases outcome with
    | error e =>
      left
      cases c.kind <;> rfl
    | ok hash =>
      right
      exact ⟨.completed c.kind c.key hash, by cases c.kind <;> rfl⟩

/-- A run that adds an event to the trace passes the point where that event has just happened. -/
theorem Reaches.passes {p q : Point} (run : p.Reaches q) {before after : List SessionEvent}
    {event : SessionEvent} (told : q.session.trace = before ++ event :: after)
    (late : p.session.trace.length ≤ before.length) :
    ∃ u, p.Reaches u ∧ u.session.trace = before ++ [event] ∧ u.Reaches q := by
  induction run generalizing after with
  | refl =>
    have length := congrArg List.length told
    simp at length
    omega
  | @tail m q front last ih =>
    rcases last.trace with same | ⟨newest, added⟩
    · obtain ⟨u, toPoint, here, onwards⟩ := ih (same ▸ told)
      exact ⟨u, toPoint, here, onwards.tail last⟩
    · -- Either the event is the newest one, or it was there before the last step.
      rcases List.eq_nil_or_concat after with rfl | ⟨older, last', rfl⟩
      · exact ⟨q, front.tail last, told, .refl⟩
      · have earlier : m.session.trace = before ++ event :: older := by
          rw [added] at told
          have split : m.session.trace ++ [newest] = (before ++ event :: older) ++ [last'] := by
            simpa using told
          exact (List.append_inj' split rfl).1
        obtain ⟨u, toPoint, here, onwards⟩ := ih earlier
        exact ⟨u, toPoint, here, onwards.tail last⟩

end Point

/-! ## Requests are runs -/

namespace Session

/-- What runs when the instance of a key is built. -/
inductive BuilderOf (s : Session) :
    InstanceKind → InstanceKey → InstantiationM TypeHash → Prop where
  | classType {template : TypeHash} {t : ClassTemplate}
      (found : s.registry.classTemplate? template = some t) (arguments : List TemplateArgument) :
      BuilderOf s .classType ⟨template, arguments⟩ (buildClass t arguments)
  | function {template : TypeHash} {t : FunctionTemplate}
      (found : s.registry.functionTemplate? template = some t) (levels : Nat)
      (arguments : List TemplateArgument) :
      BuilderOf s .function ⟨template, arguments⟩ (functionBuilder levels template t arguments)

/-- On the way from `s` to `s'` a key was opened, its builder returned the instance, and the key was
closed with it. Around all this the constructions of `s` stay under way. -/
def BuiltOnTheWay (s s' : Session) (kind : InstanceKind) (key : InstanceKey) (hash : TypeHash) :
    Prop :=
  ∃ (inner : List Construction) (u u' : Session) (build : InstantiationM TypeHash),
    u.BuilderOf kind key build ∧ u.CanOpen kind key ∧
      exec build (u.opened kind key) = (.ok hash, u') ∧
      ∀ outer, Point.Reaches ⟨outer, s⟩ ⟨inner ++ outer, u⟩ ∧
        Point.Reaches ⟨inner ++ outer, u'.closed kind key (.ok hash)⟩ ⟨outer, s'⟩

/-- The way from `s` to `s'` is a run that ends with the constructions under way with which it
began, and what is completed anew was returned by its builder. -/
structure Runs (s s' : Session) : Prop where
  path : ∀ outer, Point.Reaches ⟨outer, s⟩ ⟨outer, s'⟩
  built : ∀ kind key hash, (s'.cache kind).get? key = some hash →
    (s.cache kind).get? key = some hash ∨ BuiltOnTheWay s s' kind key hash

namespace Runs

theorem refl (s : Session) : Runs s s := ⟨fun _ => .refl, fun _ _ _ found => .inl found⟩

theorem trans (a b c : Session) (h : Runs a b) (h' : Runs b c) : Runs a c := by
  refine ⟨fun outer => (h.path outer).trans (h'.path outer), fun kind key hash found => ?_⟩
  rcases h'.built kind key hash found with before | ⟨inner, u, u', build, of, can, ran, way⟩
  · rcases h.built kind key hash before with old | ⟨inner, u, u', build, of, can, ran, way⟩
    · exact .inl old
    · refine .inr ⟨inner, u, u', build, of, can, ran, fun outer => ?_⟩
      exact ⟨(way outer).1, (way outer).2.trans (h'.path outer)⟩
  · refine .inr ⟨inner, u, u', build, of, can, ran, fun outer => ?_⟩
    exact ⟨(h.path outer).trans (way outer).1, (way outer).2⟩

/-- A step that touches neither the constructions nor the instances on record. -/
theorem of_step {s s' : Session} (step : ∀ outer, Point.Step ⟨outer, s⟩ ⟨outer, s'⟩)
    (caches : ∀ kind, s'.cache kind = s.cache kind) : Runs s s' := by
  refine ⟨fun outer => .single (step outer), fun kind key hash found => .inl ?_⟩
  rwa [caches] at found

theorem registry (s : Session) (op : RegistryOp) :
    Runs s { s with registry := op.run s.registry } :=
  of_step (fun outer => .registry outer s op) fun kind => by cases kind <;> rfl

theorem record (s : Session) (event : SessionEvent) (host : event.isHost) :
    Runs s (s.record event) :=
  of_step (fun outer => .record outer s event host) fun kind => by cases kind <;> rfl

/-- The construction of a key starts, its builder runs inside, and it stops with what the builder
returned. -/
theorem construction {s : Session} {kind : InstanceKind} {key : InstanceKey}
    {build : InstantiationM TypeHash} (of : s.BuilderOf kind key build)
    (canOpen : s.CanOpen kind key) (inside : Respects Runs build) :
    Runs s ((exec build (s.opened kind key)).2.closed kind key
      (exec build (s.opened kind key)).1) := by
  have ran := inside (s.opened kind key)
  rcases returned : exec build (s.opened kind key) with ⟨outcome, s₁⟩
  rw [returned] at ran
  have start : ∀ outer, Point.Reaches ⟨outer, s⟩ ⟨⟨kind, key⟩ :: outer, s.opened kind key⟩ :=
    fun outer => .single (.start outer s ⟨kind, key⟩ canOpen)
  have stop : ∀ outer,
      Point.Reaches ⟨⟨kind, key⟩ :: outer, s₁⟩ ⟨outer, s₁.closed kind key outcome⟩ :=
    fun outer => .single (.stop outer s₁ ⟨kind, key⟩ outcome)
  -- What was on record when the builder had returned was so before, or was built inside.
  have earlier : ∀ kind' key' hash, (s₁.cache kind').get? key' = some hash →
      (s.cache kind').get? key' = some hash ∨
        BuiltOnTheWay s (s₁.closed kind key outcome) kind' key' hash := by
    intro kind' key' hash found
    rcases ran.built kind' key' hash found with before | ⟨inner, u, u', b, of', can, ran', way⟩
    · left
      rwa [get?_opened] at before
    · refine .inr ⟨inner ++ [⟨kind, key⟩], u, u', b, of', can, ran', fun outer => ?_⟩
      obtain ⟨there, back⟩ := way (⟨kind, key⟩ :: outer)
      simp only [List.append_assoc, List.singleton_append]
      exact ⟨(start outer).trans there, back.trans (stop outer)⟩
  refine ⟨fun outer => ((start outer).trans (ran.path _)).trans (stop outer), ?_⟩
  intro kind' key' hash found
  cases outcome with
  | error e =>
    rw [get?_closed_error] at found
    exact earlier kind' key' hash found
  | ok made =>
    rw [get?_closed_ok] at found
    split at found
    · -- The key itself: its own builder returned the instance.
      rename_i same
      obtain ⟨rfl, rfl⟩ := same
      cases found
      exact .inr ⟨[], s, s₁, build, of, canOpen, returned, fun outer => ⟨.refl, .refl⟩⟩
    · exact earlier kind' key' hash found

theorem instantiateOnce {s : Session} {kind : InstanceKind} {key : InstanceKey}
    {build : InstantiationM TypeHash} (of : s.BuilderOf kind key build)
    (inside : Respects Runs build) : Runs s (exec (instantiateOnce kind key build) s).2 := by
  rcases exec_instantiateOnce_cases s kind key build with
    ⟨hash, -, ran⟩ | ⟨canOpen, ran⟩ | ⟨-, e, ran⟩
  · rw [ran]
    exact .refl s
  · rw [ran]
    exact construction of canOpen inside
  · rw [ran]
    exact .refl s

/-! The parts of building a class instance. -/

theorem registering {α : Type} (template : TypeHash) {action : RegistryM α} (op : RegistryOp)
    (runs : ∀ r, op.run r = (exec action r).2) :
    Respects Runs (registering template action) := by
  intro s
  rw [exec_registering, ← runs]
  exact registry s op

theorem fillInstance (t : ClassTemplate) (arguments : List TemplateArgument)
    (made : ClassInstance) : Respects Runs (fillInstance t arguments made) := by
  unfold ScriptSemantics.fillInstance
  split
  · intro s
    rw [exec_ofHost]
    exact .refl s
  · refine .bind trans (.modify fun s => record s _ rfl) fun _ s => ?_
    rw [exec_ofHost]
    exact .refl s

theorem registerMembers (template hash : TypeHash) (fs : List FunctionDecl) :
    Respects Runs (registerMembers template hash fs) := by
  induction fs with
  | nil => exact .pure refl _
  | cons f fs ih =>
    refine .bind trans (.attempt (registering template (.registerFunction f) fun _ => rfl)) ?_
    intro outcome
    cases outcome with
    | ok _ => exact ih
    | error e =>
      exact .bind trans (.modify fun s => registry s (.removeType hash)) fun _ => .throw refl e

theorem buildClass (t : ClassTemplate) (arguments : List TemplateArgument) :
    Respects Runs (buildClass t arguments) := by
  refine Respects.get_bind fun s => ?_
  split
  · exact .pure refl _
  · refine .bind trans (fillInstance t arguments _) fun made => ?_
    refine .bind trans (registering t.hash (.registerType _) fun _ => rfl) fun hash => ?_
    exact .bind trans (registerMembers t.hash hash _) fun _ => .pure refl hash

theorem instantiateClass (template : TypeHash) (explicit : List TemplateArgument) :
    Respects Runs (instantiateClass template explicit) := by
  intro s
  rw [exec_instantiateClass]
  cases found : s.registry.classTemplate? template with
  | none => exact .refl s
  | some t =>
    cases completed : completedFor s.registry template t explicit with
    | error e => simpa only [completed] using Runs.refl s
    | ok arguments =>
      simp only [completed]
      exact instantiateOnce (.classType found arguments) (buildClass t arguments)

/-- Whatever a session does is a run. -/
theorem tracks : Tracks Runs where
  refl := refl
  trans := trans
  record := record
  intern s f := registry s (.intern (.functionType f))
  registerFunction s f := registry s (.registerFunction f)
  updateFunction s f := registry s (.updateFunction f)
  removeFunction s hash := registry s (.removeFunction hash)
  instantiateClass := instantiateClass
  instantiateOnce _ levels _ _ arguments found := instantiateOnce (.function found levels arguments)

end Runs

end Session

/-! ## Bracketing -/

/-- A key in progress is refused, whatever its builder is. -/
theorem exec_instantiateOnce_busy {s : Session} {kind : InstanceKind} {key : InstanceKey}
    (unbuilt : (s.cache kind).get? key = none) (busy : (s.cache kind).isInProgress key)
    (build : InstantiationM TypeHash) :
    exec (instantiateOnce kind key build) s =
      (.error (.recursiveInstantiation key.template key.arguments), s) := by
  have refused : exec (openInstance kind key) s =
      (.error (.recursiveInstantiation key.template key.arguments), s) := by
    rw [openInstance, exec_bind_ok (exec_get s)]
    simp only [unbuilt, busy]
    rfl
  rw [instantiateOnce, exec_bind_error refused]

/-- **Bracketing**: at every point of a run, inside hosts and builders too, the nesting is the
number of keys in progress and within the limit, and no key in progress is completed; a request for
a key in progress is refused before its builder could run. Whatever the session is asked at that
point is itself a run. It comes back to the nesting and the keys in progress it began with, each
event it adds to the trace happens at a point on its way, and each instance it completes was
returned by a builder of its key. -/
theorem instantiation_bracketed {s₀ : Session} (fresh : s₀.IsFresh) {p : Point}
    (run : Point.Reaches ⟨[], s₀⟩ p) :
    (p.session.depth = (p.session.cache .function).inProgress.length +
        (p.session.cache .classType).inProgress.length ∧
      (∀ kind, (p.session.cache kind).inProgress.Nodup) ∧
      p.session.depth ≤ p.session.maxDepth ∧
      ∀ kind key, (p.session.cache kind).isInProgress key →
        (p.session.cache kind).get? key = none) ∧
    (∀ kind key, (p.session.cache kind).isInProgress key →
      (∀ build, exec (instantiateOnce kind key build) p.session =
        (.error (.recursiveInstantiation key.template key.arguments), p.session)) ∧
      ∀ template explicit action, Requests kind template explicit action →
        p.session.key? kind template explicit = some key →
        exec action p.session =
          (.error (.recursiveInstantiation key.template key.arguments), p.session)) ∧
    ∀ op : SessionOp,
      p.Reaches ⟨p.underWay, op.run p.session⟩ ∧
      (op.run p.session).depth = p.session.depth ∧
      (∀ kind, ((op.run p.session).cache kind).inProgress = (p.session.cache kind).inProgress) ∧
      (∀ before event after, (op.run p.session).trace = before ++ event :: after →
        p.session.trace.length ≤ before.length →
        ∃ q, p.Reaches q ∧ q.session.trace = before ++ [event] ∧
          q.Reaches ⟨p.underWay, op.run p.session⟩) ∧
      ∀ kind key hash, ((op.run p.session).cache kind).get? key = some hash →
        (p.session.cache kind).get? key = some hash ∨
          p.session.BuiltOnTheWay (op.run p.session) kind key hash := by
  have balanced := run.balanced (Point.balanced_of_isFresh fresh)
  have exclusive : ∀ kind key, (p.session.cache kind).isInProgress key →
      (p.session.cache kind).get? key = none := fun kind key busy =>
    balanced.unbuilt _ (balanced.isInProgress_iff.1 busy)
  refine ⟨⟨?_, ?_, balanced.within, exclusive⟩, ?_, ?_⟩
  · rw [balanced.depth, balanced.inProgress, balanced.inProgress, Construction.length_keysOf]
  · intro kind
    rw [balanced.inProgress]
    exact Construction.nodup_keysOf balanced.nodup
  · intro kind key busy
    have refused := exec_instantiateOnce_busy (exclusive kind key busy) busy
    refine ⟨refused, fun template explicit action request keyed => ?_⟩
    obtain ⟨build, asOnce⟩ := request.exec_eq keyed
    rw [asOnce, refused]
  · intro op
    have runs := op.run_tracked Session.Runs.tracks p.session
    have path : p.Reaches ⟨p.underWay, op.run p.session⟩ := runs.path p.underWay
    -- Where the run ends the books agree with the same constructions as where it began.
    have after := path.balanced balanced
    refine ⟨path, after.depth.trans balanced.depth.symm, fun kind => ?_, ?_, runs.built⟩
    · exact (after.inProgress kind).trans (balanced.inProgress kind).symm
    · intro before event rest told late
      exact path.passes told late

/-! A session in which the body for 2 asks for the instance for 1 and the body for 1 asks for the
instance for 2. -/

def alternating : Session where
  registry := { functionTemplates := { entries := [(⟨1⟩, countdown)] } }
  bodyCompiler := some fun request =>
    .instantiateFunction ⟨1⟩ [if request.arguments = [.integer 2] then .integer 1 else .integer 2]
      fun
        | .ok _ => .finish (.script 0)
        | .error e => .fail e
  maxDepth := 2

/-- The signature of the instance for a number. -/
def countdownFor (n : Int64) : FunctionDecl :=
  .templateInstance ⟨1⟩ [.integer n] "countdown" "" none [] .void

/-- The session when the body for a number is being compiled. -/
def Session.compiling (s : Session) (n : Int64) : Session :=
  let s := s.opened .function ⟨⟨1⟩, [.integer n]⟩
  let s := { s with registry := RegistryOp.run s.registry (.registerFunction (countdownFor n)) }
  s.record (.compiled 0 ⟨1⟩ (countdownFor n).hash [.integer n] s.depth)

theorem Session.reaches_compiling {s : Session} {n : Int64}
    (canOpen : s.CanOpen .function ⟨⟨1⟩, [.integer n]⟩) (outer : List Construction) :
    Point.Reaches ⟨outer, s⟩ ⟨⟨.function, ⟨⟨1⟩, [.integer n]⟩⟩ :: outer, s.compiling n⟩ := by
  refine .head (.start outer s ⟨.function, _⟩ canOpen) ?_
  refine .head (.registry _ _ (.registerFunction (countdownFor n))) ?_
  exact .single (.record _ _ _ rfl)

/-- Inside the body for 1, which is inside the body for 2, the limit of nesting is reached and the
instance for 2 is refused as recursive. So are then both bodies, and nothing is left in progress. -/
theorem instantiation_bracketed_alternating :
    Point.Reaches ⟨[], alternating⟩
        ⟨[⟨.function, ⟨⟨1⟩, [.integer 1]⟩⟩, ⟨.function, ⟨⟨1⟩, [.integer 2]⟩⟩],
          (alternating.compiling 2).compiling 1⟩ ∧
      ((alternating.compiling 2).compiling 1).depth = 2 ∧
      exec (instantiateFunctionWithin 0 ⟨1⟩ [.integer 2]) ((alternating.compiling 2).compiling 1) =
        (.error (.recursiveInstantiation ⟨1⟩ [.integer 2]),
          (alternating.compiling 2).compiling 1) ∧
      (exec (instantiateFunction ⟨1⟩ [.integer 2]) alternating).1 =
        .error (.recursiveInstantiation ⟨1⟩ [.integer 2]) ∧
      (exec (instantiateFunction ⟨1⟩ [.integer 2]) alternating).2.depth = 0 := by
  have fresh : alternating.IsFresh := ⟨rfl, rfl, rfl, rfl⟩
  have inside : Point.Reaches ⟨[], alternating⟩ _ :=
    .trans (Session.reaches_compiling (n := 2) ⟨rfl, rfl, by decide⟩ [])
      (Session.reaches_compiling (n := 1) ⟨rfl, rfl, by decide⟩ _)
  have there := instantiation_bracketed fresh inside
  have outside := (instantiation_bracketed fresh .refl).2.2 (.instantiateFunction ⟨1⟩ [.integer 2])
  refine ⟨inside, ?_, ?_, rfl, outside.2.1⟩
  · rw [there.1.1]
    rfl
  · exact (there.2.1 .function ⟨⟨1⟩, [.integer 2]⟩ rfl).2 _ _ _ (.within 0 ⟨1⟩ _) rfl

end ScriptSemantics
