import ScriptSemantics.Proofs.Registry.Rollback
import ScriptSemantics.Proofs.Session.Growth
import ScriptSemantics.Proofs.Template.Completion

/-!
# What a Failed Class Instance Leaves Behind

A request for a class instance may fail at any point: before the host is asked, by the host's own
answer, or after some of the members have been registered. This file says exactly what is left then.
Types and completed instances are always as before. Functions are as before exactly if no member
accepted before the failure is one that the class does not list; names are as before exactly if the
name of the instance was not bound in its namespace.
-/

namespace ScriptSemantics

/-! ## What the host does -/

/-- The host adds members of the class, and leaves the identity of the class and the lists of its
members to registration. -/
def ClassBackend.FillsMembers : ClassBackend → Prop
  | .elementList => True
  | .host fill => ∀ arguments made filled, fill arguments made = .ok filled →
      filled.decl.hash = made.decl.hash ∧ filled.decl.constructors = made.decl.constructors ∧
        filled.decl.casts = made.decl.casts ∧ filled.decl.methods = made.decl.methods ∧
        ∀ f ∈ filled.functions, f.owner = some made.decl.hash

theorem ClassTemplate.filled_members {t : ClassTemplate} {arguments : List TemplateArgument}
    {made : ClassInstance} (fills : t.backend.FillsMembers)
    (filled : t.filled arguments = .ok made) :
    made.decl.hash = (t.instanceDecl arguments).hash ∧ made.decl.listed = [] ∧
      ∀ f ∈ made.functions, f.owner = some made.decl.hash := by
  unfold ClassTemplate.filled at filled
  cases backend : t.backend with
  | elementList =>
    rw [backend] at filled
    rw [fillElementList_eq filled]
    exact ⟨rfl, rfl, by simp⟩
  | host fill =>
    rw [backend] at filled fills
    obtain ⟨hash, constructors, casts, methods, owned⟩ := fills _ _ _ filled
    refine ⟨hash, ?_, ?_⟩
    · rw [ClassDecl.listed, constructors, casts, methods]
      rfl
    · rw [hash]
      exact owned

/-- The request gets as far as registering the members that the host has made. -/
structure Session.StartsMembers (s : Session) (template : TypeHash)
    (explicit : List TemplateArgument) (t : ClassTemplate) (arguments : List TemplateArgument)
    (made : ClassInstance) : Prop where
  known : s.registry.classTemplate? template = some t
  completed : completedFor s.registry template t explicit = .ok arguments
  canOpen : s.CanOpen .classType { template, arguments }
  free : s.registry.type? (t.instanceDecl arguments).hash = none
  filled : t.filled arguments = .ok made

/-- A request starts the members of one instance at most. -/
theorem Session.StartsMembers.unique {s : Session} {template : TypeHash}
    {explicit : List TemplateArgument} {t t' : ClassTemplate}
    {arguments arguments' : List TemplateArgument} {made made' : ClassInstance}
    (h : s.StartsMembers template explicit t arguments made)
    (h' : s.StartsMembers template explicit t' arguments' made') : made' = made := by
  obtain rfl : t' = t := Option.some.inj (h'.known.symm.trans h.known)
  obtain rfl : arguments' = arguments := Except.ok.inj (h'.completed.symm.trans h.completed)
  exact Except.ok.inj (h'.filled.symm.trans h.filled)

/-! ## Failure among the members -/

/-- By induction on the members: those accepted so far are in the registry, and the first one that
is refused takes the class out. -/
theorem exec_registerMembers_error {s s' : Session} {template hash : TypeHash} {c : ClassDecl}
    {fs : List FunctionDecl} {e : TemplateError} (present : s.registry.class? hash = some c)
    (owned : ∀ f ∈ fs, f.owner = some hash)
    (failed : exec (registerMembers template hash fs) s = (.error e, s')) :
    s' = { s with
      registry := ((s.registry.withMembers hash
        (Registry.acceptedBy s.registry.functions fs)).removeType hash).2 } := by
  induction fs generalizing s c with
  | nil => cases failed
  | cons f fs ih =>
    rw [registerMembers, exec_bind_ok (exec_attempt s _), exec_registering,
      Registry.exec_registerFunction] at failed
    by_cases taken : s.registry.functions.contains f.hash
    · -- The first refusal, and the only cause there is: the owner exists.
      simp only [taken, if_true] at failed
      cases failed
      rw [Registry.acceptedBy, if_pos taken]
      rfl
    · have owner := owned f List.mem_cons_self
      simp only [taken, owner, present] at failed
      -- The class is still there with one member more, and the rest follows from there.
      have next := Registry.class?_addMember present f
      have rest := ih (s := { s with registry := Registry.addMember hash s.registry f }) next
        (fun g member => owned g (List.mem_cons_of_mem f member)) failed
      rw [rest, Registry.acceptedBy, if_neg taken]
      rfl

/-- The accepted members that stay when their class is taken out. -/
def leftBy (r : Registry) (made : ClassInstance) : List FunctionDecl :=
  (Registry.acceptedBy r.functions made.functions).filter (!·.isListed)

/-- Registering a filled instance fails by a member, since the identity of the class is free. -/
theorem exec_registerInstance_error {s s' : Session} {template : TypeHash} {made : ClassInstance}
    {e : TemplateError} (free : s.registry.type? made.decl.hash = none)
    (unlisted : made.decl.listed = [])
    (owned : ∀ f ∈ made.functions, f.owner = some made.decl.hash)
    (failed : exec (registerInstance template made) s = (.error e, s')) :
    s' = { s with registry := s.registry.rolledBack made.decl (leftBy s.registry made) } := by
  rw [exec_registerInstance_free template free] at failed
  rcases members : exec (registerMembers template made.decl.hash made.functions)
      { s with registry := s.registry.addType (.classType made.decl) } with ⟨cause | _, s₁⟩
  · rw [members] at failed
    cases failed
    rw [exec_registerMembers_error (Registry.class?_addType s.registry made.decl) owned members]
    have undone := Registry.removeType_withMembers free unlisted made.functions
    exact congrArg (fun r => { s with registry := r }) undone
  · rw [members] at failed
    cases failed

/-! ## Failure of a request -/

/-- Opening and giving up a construction leaves the completed instances alone. -/
theorem instances_opened_closed_error {s s₁ : Session} {kind : InstanceKind} {key : InstanceKey}
    (e : TemplateError) (inside : ∀ other, s₁.cache other = (s.opened kind key).cache other)
    (other : InstanceKind) :
    ((s₁.closed kind key (.error e)).cache other).instances = (s.cache other).instances := by
  rw [Session.cache_closed_error, inside, Session.cache_opened]
  split
  · unfold InstanceCache.start
    split <;> rfl
  · rfl

/-- A build that fails had a free identity to build for. Either the host refused, and nothing was
registered, or one of its members was. -/
theorem exec_buildClass_error {s s' : Session} {t : ClassTemplate}
    {arguments : List TemplateArgument} {e : TemplateError} (fills : t.backend.FillsMembers)
    (failed : exec (buildClass t arguments) s = (.error e, s')) :
    (∀ kind, s'.cache kind = s.cache kind) ∧
      s.registry.type? (t.instanceDecl arguments).hash = none ∧
      ((∃ reason, t.filled arguments = .error reason ∧ s'.registry = s.registry) ∨
        ∃ made, t.filled arguments = .ok made ∧
          s'.registry = s.registry.rolledBack made.decl (leftBy s.registry made)) := by
  have asked := t.asked_registry arguments s
  rw [exec_buildClass] at failed
  split at failed
  · -- A taken identity is returned, which is no failure.
    cases failed
  · rename_i taken
    have free : s.registry.type? (t.instanceDecl arguments).hash = none := by simpa using taken
    cases filled : t.filled arguments with
    | error reason =>
      rw [filled] at failed
      cases failed
      exact ⟨t.asked_cache arguments s, free, .inl ⟨reason, rfl, asked⟩⟩
    | ok made =>
      obtain ⟨hash, unlisted, owned⟩ := t.filled_members fills filled
      rw [filled] at failed
      have left := exec_registerInstance_error (by rw [asked, hash]; exact free) unlisted owned
        failed
      rw [asked] at left
      subst left
      exact ⟨t.asked_cache arguments s, free, .inr ⟨made, rfl, rfl⟩⟩

/-- A request fails without doing anything where construction cannot start. Otherwise building
fails, and the construction is given up. -/
theorem exec_instantiateClass_error {s s' : Session} {template : TypeHash}
    {explicit : List TemplateArgument} {e : TemplateError}
    (failed : exec (instantiateClass template explicit) s = (.error e, s')) :
    (s' = s ∧ ∀ t arguments, s.registry.classTemplate? template = some t →
        completedFor s.registry template t explicit = .ok arguments →
        ¬s.CanOpen .classType { template, arguments }) ∨
      ∃ t arguments s₁, s.registry.classTemplate? template = some t ∧
        completedFor s.registry template t explicit = .ok arguments ∧
        s.CanOpen .classType { template, arguments } ∧
        exec (buildClass t arguments) (s.opened .classType { template, arguments }) =
          (.error e, s₁) ∧
        s' = s₁.closed .classType { template, arguments } (.error e) := by
  rw [exec_instantiateClass] at failed
  cases known : s.registry.classTemplate? template with
  | none =>
    rw [known] at failed
    cases failed
    exact .inl ⟨rfl, fun t arguments h => by cases h⟩
  | some t =>
    rw [known] at failed
    cases completed : completedFor s.registry template t explicit with
    | error cause =>
      simp only [completed] at failed
      cases failed
      refine .inl ⟨rfl, fun t' arguments h h' => ?_⟩
      obtain rfl := Option.some.inj h
      rw [completed] at h'
      cases h'
    | ok arguments =>
      simp only [completed] at failed
      rcases exec_instantiateOnce_cases s .classType { template, arguments }
          (buildClass t arguments) with ⟨hash, -, ran⟩ | ⟨canOpen, ran⟩ | ⟨closed, cause, ran⟩
      · rw [ran] at failed
        cases failed
      · rw [ran] at failed
        rcases built : exec (buildClass t arguments) (s.opened .classType { template, arguments })
          with ⟨outcome, s₁⟩
        rw [built] at failed
        obtain ⟨rfl, rfl⟩ := Prod.mk.inj failed
        exact .inr ⟨t, arguments, s₁, rfl, completed, canOpen, built, rfl⟩
      · rw [ran] at failed
        obtain ⟨-, rfl⟩ := Prod.mk.inj failed
        refine .inl ⟨rfl, fun t' arguments' h h' => ?_⟩
        obtain rfl := Option.some.inj h
        rw [completed] at h'
        cases h'
        exact closed

/-- A failed request either got as far as the members, and left what they leave, or it changed no
declaration at all. -/
theorem registry_of_failed {s s' : Session} {template : TypeHash}
    {explicit : List TemplateArgument} {e : TemplateError}
    (fills : ∀ t, s.registry.classTemplate? template = some t → t.backend.FillsMembers)
    (failed : exec (instantiateClass template explicit) s = (.error e, s')) :
    (∀ kind, (s'.cache kind).instances = (s.cache kind).instances) ∧
      ((∃ t arguments made, s.StartsMembers template explicit t arguments made ∧
          s'.registry = s.registry.rolledBack made.decl (leftBy s.registry made)) ∨
        ((∀ t arguments made, ¬s.StartsMembers template explicit t arguments made) ∧
          s'.registry = s.registry)) := by
  rcases exec_instantiateClass_error failed with
    ⟨rfl, closed⟩ | ⟨t, arguments, s₁, known, completed, canOpen, built, rfl⟩
  · refine ⟨fun _ => rfl, .inr ⟨fun t arguments made starts => ?_, rfl⟩⟩
    exact closed t arguments starts.known starts.completed starts.canOpen
  · obtain ⟨caches, free, outcome⟩ := exec_buildClass_error (fills t known) built
    refine ⟨instances_opened_closed_error e caches, ?_⟩
    rcases outcome with ⟨reason, refused, same⟩ | ⟨made, filled, left⟩
    · refine .inr ⟨fun t' arguments' made starts => ?_, same⟩
      obtain rfl : t' = t := Option.some.inj (starts.known.symm.trans known)
      obtain rfl : arguments' = arguments :=
        Except.ok.inj (starts.completed.symm.trans completed)
      rw [starts.filled] at refused
      cases refused
    · exact .inl ⟨t, arguments, made, ⟨known, completed, canOpen, free, filled⟩, left⟩

/-- **What a failed class instance leaves behind.** Types, with the member lists of all classes, and
the completed instances of both kinds are as before. The functions are as before if and only if
every member accepted before the failure is listed by its class: destructors and template instances
stay. The namespaces are as before if and only if the name of the instance was free: a type of that
name loses it. -/
theorem failed_instance_leaves_iff {s s' : Session} {template : TypeHash}
    {explicit : List TemplateArgument} {e : TemplateError}
    (fills : ∀ t, s.registry.classTemplate? template = some t → t.backend.FillsMembers)
    (failed : exec (instantiateClass template explicit) s = (.error e, s')) :
    s'.registry.types = s.registry.types ∧
      (∀ kind, (s'.cache kind).instances = (s.cache kind).instances) ∧
      (s'.registry.functions = s.registry.functions ↔
        ∀ t arguments made, s.StartsMembers template explicit t arguments made →
          ∀ f ∈ Registry.acceptedBy s.registry.functions made.functions, f.isListed) ∧
      (s'.registry.namespaces = s.registry.namespaces ↔
        ∀ t arguments made, s.StartsMembers template explicit t arguments made →
          s.registry.TypeNameFree made.decl.path made.decl.name) := by
  obtain ⟨instances, outcome⟩ := registry_of_failed fills failed
  rcases outcome with ⟨t, arguments, made, starts, left⟩ | ⟨never, same⟩
  · -- The members were started, and what they left decides both questions.
    rw [left]
    refine ⟨rfl, instances, ?_, ?_⟩
    · have functions : (s.registry.rolledBack made.decl (leftBy s.registry made)).functions =
          s.registry.functions ↔ leftBy s.registry made = [] := by
        rw [Registry.rolledBack, Table.mk.injEq]
        simp
      rw [functions, leftBy, List.filter_eq_nil_iff]
      constructor
      · intro listed t' arguments' made' starts' f accepted
        rw [starts.unique starts'] at accepted
        simpa using listed f accepted
      · intro listed f accepted
        simpa using listed t arguments made starts f accepted
    · have names := Registry.file_eraseTypeName_eq_iff s.registry made.decl.path made.decl.name
      refine names.trans ⟨fun free t' arguments' made' starts' => ?_, fun free => ?_⟩
      · rw [starts.unique starts']
        exact free
      · exact free t arguments made starts
  · -- No member was started: nothing changed, and both conditions are vacuous.
    rw [same]
    refine ⟨rfl, instances, ?_, ?_⟩
    · exact iff_of_true rfl fun t arguments made starts => absurd starts (never t arguments made)
    · exact iff_of_true rfl fun t arguments made starts => absurd starts (never t arguments made)

/-! A class template whose host adds a destructor and two methods of one name. The second method is
refused. -/

def twinMethods (made : ClassInstance) : ClassInstance :=
  { made with
    functions := [.destructor made.decl.hash, .method made.decl.hash "m" [] .void,
      .method made.decl.hash "m" [] .void] }

def twinBox : ClassTemplate :=
  (ClassTemplate.declare "" "Box" (.host fun _ made => .ok (twinMethods made))).addParam "T" .type

/-- The template is registered next to some other type. -/
def twinSession (other : TypeDecl) : Session where
  registry := (exec (Registry.registerClassTemplate twinBox)
    (exec (Registry.registerType other) Registry.withBuiltins).2).2

/-- The request for the instance of an unqualified type. -/
def twinRequest (hash : TypeHash) : InstantiationM TypeHash :=
  instantiateClass twinBox.hash [.ofHash hash]

/-- The class of the instance for `int`, registered by hand under an identity of its own. -/
def namesake : TypeDecl := .classType (.declare "" "Box<int>")

/-- The request for `int` gets as far as the members. -/
theorem twin_startsMembers :
    (twinSession namesake).StartsMembers twinBox.hash [.ofHash FundamentalKind.int.hash] twinBox
      [.ofHash FundamentalKind.int.hash]
      (twinMethods { decl := twinBox.instanceDecl [.ofHash FundamentalKind.int.hash] }) where
  known := by
    have accepted : (exec (Registry.registerClassTemplate twinBox)
        (exec (Registry.registerType namesake) Registry.withBuiltins).2).1.toOption.isSome := by
      decide +kernel
    simp only [twinSession]
    exact Registry.classTemplate?_of_accepted accepted
  completed := CompletionContext.complete_of_fills (.cons rfl .nil)
  canOpen := ⟨rfl, rfl, by decide⟩
  free := by decide +kernel
  filled := rfl

/-- With a destructor among the accepted members and a namesake among the types, functions and
names do change; types and completed instances do not. -/
theorem failed_instance_leaves_iff_twin :
    ∃ e after, exec (twinRequest FundamentalKind.int.hash) (twinSession namesake) =
        (.error e, after) ∧
      after.registry.types = (twinSession namesake).registry.types ∧
      after.registry.functions ≠ (twinSession namesake).registry.functions ∧
      after.registry.namespaces ≠ (twinSession namesake).registry.namespaces := by
  have fills : ∀ t, (twinSession namesake).registry.classTemplate? twinBox.hash = some t →
      t.backend.FillsMembers := by
    intro t known
    obtain rfl := Option.some.inj (twin_startsMembers.known.symm.trans known)
    intro arguments made filled h
    cases h
    exact ⟨rfl, rfl, rfl, rfl, by simp [twinMethods, FunctionDecl.destructor, FunctionDecl.method,
      FunctionDecl.declare]⟩
  have refused : (exec (twinRequest FundamentalKind.int.hash)
      (twinSession namesake)).1.toOption = none := by decide +kernel
  rcases ran : exec (twinRequest FundamentalKind.int.hash) (twinSession namesake)
    with ⟨e | hash, after⟩
  · obtain ⟨types, -, functions, namespaces⟩ := failed_instance_leaves_iff fills ran
    refine ⟨e, after, rfl, types, ?_, ?_⟩
    · intro same
      have listed := functions.1 same _ _ _ twin_startsMembers
      revert listed
      decide +kernel
    · intro same
      obtain ⟨node, path, free⟩ := namespaces.1 same _ _ _ twin_startsMembers
      obtain rfl : NamespaceTree.root = node := Option.some.inj path
      revert free
      decide +kernel
  · rw [ran] at refused
    cases refused

/-- A failed instance leaves its destructor in the registry, and takes its name away from a class
that was registered before. -/
theorem failed_instance_leaves_trace :
    let before := twinSession namesake
    let outcome := (exec (twinRequest FundamentalKind.int.hash) before).1
    let after := (exec (twinRequest FundamentalKind.int.hash) before).2
    let destructor := FunctionDecl.destructor
      (.ofTemplateInstance twinBox.hash [.ofHash FundamentalKind.int.hash])
    outcome.toOption = none ∧
      before.registry.function? destructor.hash = none ∧
      after.registry.function? destructor.hash = some destructor ∧
      before.registry.typeIn? NamespaceTree.root "Box<int>" = some namesake.hash ∧
      after.registry.typeIn? NamespaceTree.root "Box<int>" = none := by
  decide +kernel

end ScriptSemantics
