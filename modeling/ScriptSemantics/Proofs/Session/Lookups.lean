import ScriptSemantics.Proofs.Registry.Rollback
import ScriptSemantics.Proofs.Session.ClassConstruction
import ScriptSemantics.Proofs.Session.Tracking

/-!
# What Looking Things Up Leaves Behind

Names may be template-ids and signatures may mention patterns, so look-up and substitution build
class instances on their way. With these come their members, and members are all that is added to
the functions of the program. Functions that were there stay as they are, also where an instance
fails and its class is taken out again, because a class lists only members registered after it.

That the lists of a class start empty is up to the host that fills it in. A host may put any
function on them, which is then lost if the instance fails: `Session.Lists` says of which functions
this is true. `Registry.LeavesLists` says that all hosts leave the lists to registration, and then
it is true of none.

`Session.Looks` puts together what is kept and what is new, with a place for functions that are
declared for a while. `Session.Looks.tracksLookup` is the main result.
-/

namespace ScriptSemantics

/-! ## Functions that enter a registry -/

namespace Registry

/-- A function has entered under an identity that was free. -/
structure Entered (f : FunctionDecl) (r r' : Registry) : Prop where
  free : r.function? f.hash = none
  templates : SameTemplates r r'
  lookup : ∀ hash, r'.function? hash = if hash = f.hash then some f else r.function? hash
  /-- A class may have the function on its lists, but lists nothing else anew. -/
  listed : ∀ hash c, r.class? hash = some c →
    ∃ c', r'.class? hash = some c' ∧ ∀ h ∈ c'.listed, h ∈ c.listed ∨ h = f.hash

namespace Entered

variable {f : FunctionDecl} {r r' : Registry}

theorem found (h : Entered f r r') : r'.function? f.hash = some f := by
  rw [h.lookup, if_pos rfl]

theorem kept (h : Entered f r r') {hash : TypeHash} {g : FunctionDecl}
    (known : r.function? hash = some g) : r'.function? hash = some g := by
  have other : hash ≠ f.hash := by
    rintro rfl
    rw [h.free] at known
    cases known
  rw [h.lookup, if_neg other, known]

end Entered

theorem entered_addFunction {r r₁ : Registry} {f : FunctionDecl} (free : r.function? f.hash = none)
    (functions : r₁.functions = r.functions) (templates : SameTemplates r r₁)
    (listed : ∀ hash c, r.class? hash = some c →
      ∃ c', r₁.class? hash = some c' ∧ ∀ h ∈ c'.listed, h ∈ c.listed ∨ h = f.hash) :
    Entered f r (r₁.addFunction f) where
  free := free
  templates := templates
  lookup hash := by
    show (r₁.functions.insert f.hash f).get? hash = _
    rw [functions, Table.get?_insert]
    rfl
  listed := listed

/-- A function enters, or it is refused and nothing changes. -/
theorem registerFunction_cases (f : FunctionDecl) (r : Registry) :
    (∃ e, exec (registerFunction f) r = (.error e, r)) ∨
      ∃ r', exec (registerFunction f) r = (.ok f.hash, r') ∧ Entered f r r' := by
  rw [exec_registerFunction]
  by_cases taken : r.functions.contains f.hash
  · exact .inl ⟨_, if_pos taken⟩
  · have free : r.function? f.hash = none := by
      simpa [Table.contains, function?] using taken
    rw [if_neg taken]
    cases f.owner with
    | none =>
      -- The name is filed in its namespace, or among the built-in operators.
      have filed : (r.fileUnowned f).functions = r.functions ∧ SameTemplates r (r.fileUnowned f) ∧
          (r.fileUnowned f).types = r.types := by
        unfold fileUnowned
        split
        · split <;> exact ⟨rfl, ⟨rfl, rfl⟩, rfl⟩
        · exact ⟨rfl, ⟨rfl, rfl⟩, rfl⟩
      refine .inr ⟨_, rfl, entered_addFunction free filed.1 filed.2.1 fun hash c present => ?_⟩
      refine ⟨c, ?_, fun h member => .inl member⟩
      rw [class?, type?, filed.2.2]
      exact present
    | some owner =>
      by_cases missing : (r.class? owner).isNone
      · exact .inl ⟨_, if_pos missing⟩
      · refine .inr ⟨_, if_neg missing, entered_addFunction free rfl ⟨rfl, rfl⟩ ?_⟩
        intro hash c present
        rw [class?_modifyClass, present]
        by_cases same : hash = owner
        · refine ⟨fileMember f c, by rw [if_pos same]; rfl, fun h member => ?_⟩
          rcases (mem_listed_fileMember f c h).mp member with before | ⟨-, rfl⟩
          · exact .inl before
          · exact .inr rfl
        · exact ⟨c, by rw [if_neg same], fun h member => .inl member⟩

/-! ## Members -/

/-- Functions stay, but for those in `lost`, and what is new is among `fs` and under its own
identity. -/
structure Gains (lost : List TypeHash) (fs : List FunctionDecl) (r r' : Registry) : Prop where
  templates : SameTemplates r r'
  kept : ∀ hash f, r.function? hash = some f → hash ∉ lost → r'.function? hash = some f
  origin : ∀ hash f, r'.function? hash = some f →
    r.function? hash = some f ∨ (f.hash = hash ∧ f ∈ fs)

theorem SameTemplates.trans {a b c : Registry} (h : SameTemplates a b) (h' : SameTemplates b c) :
    SameTemplates a c := ⟨h'.1.trans h.1, h'.2.trans h.2⟩

/-- Functions outside the erased ones are found as before. -/
theorem get?_foldl_erase_of_not_mem {functions : Table TypeHash FunctionDecl}
    {hashes : List TypeHash} {hash : TypeHash} (h : hash ∉ hashes) :
    (hashes.foldl Table.erase functions).get? hash = functions.get? hash := by
  induction hashes generalizing functions with
  | nil => rfl
  | cons gone hashes ih =>
    rw [List.mem_cons, not_or] at h
    rw [List.foldl_cons, ih h.2, Table.get?_erase, if_neg h.1]

/-- What is erased is gone. -/
theorem get?_foldl_erase_of_mem {functions : Table TypeHash FunctionDecl}
    {hashes : List TypeHash} {hash : TypeHash} (h : hash ∈ hashes) :
    (hashes.foldl Table.erase functions).get? hash = none := by
  induction hashes generalizing functions with
  | nil => cases h
  | cons gone hashes ih =>
    by_cases again : hash ∈ hashes
    · exact ih again
    · have here : hash = gone := (List.mem_cons.mp h).resolve_right again
      rw [List.foldl_cons, get?_foldl_erase_of_not_mem again, Table.get?_erase, if_pos here]

/-- A class that is taken out takes the functions along that it lists. -/
theorem gains_removeType {r : Registry} {hash : TypeHash} {c : ClassDecl}
    (present : r.class? hash = some c) (fs : List FunctionDecl) :
    Gains c.listed fs r (r.removeType hash).2 := by
  rw [removeType_classType (class?_eq_some_iff.1 present)]
  refine ⟨⟨rfl, rfl⟩, fun h f found unlisted => ?_, fun h f found => ?_⟩
  · show ((c.listed).foldl Table.erase r.functions).get? h = some f
    rw [get?_foldl_erase_of_not_mem unlisted]
    exact found
  · exact .inl (get?_of_foldl_erase found)

end Registry

/-- By induction on the members. Each one that enters may be listed and so be lost again later, but
it was not there before. -/
theorem registerMembers_gains (template hash : TypeHash) (fs : List FunctionDecl) (s : Session)
    {c : ClassDecl} (present : s.registry.class? hash = some c) :
    ∃ r, (exec (registerMembers template hash fs) s).2 = { s with registry := r } ∧
      Registry.Gains c.listed fs s.registry r := by
  induction fs generalizing s c with
  | nil =>
    exact ⟨s.registry, rfl, ⟨rfl, rfl⟩, fun _ _ found _ => found, fun _ _ found => .inl found⟩
  | cons f fs ih =>
    rw [registerMembers, exec_bind_ok (exec_attempt s _), exec_registering]
    rcases Registry.registerFunction_cases f s.registry with ⟨e, refused⟩ | ⟨r₁, accepted, entered⟩
    · rw [refused]
      exact ⟨_, rfl, Registry.gains_removeType present _⟩
    · rw [accepted]
      obtain ⟨c₁, present₁, listed⟩ := entered.listed hash c present
      obtain ⟨r, ran, gains⟩ := ih { s with registry := r₁ } present₁
      refine ⟨r, ran, entered.templates.trans gains.templates, fun h g found unlisted => ?_,
        fun h g found => ?_⟩
      · refine gains.kept h g (entered.kept found) fun isListed => ?_
        rcases listed h isListed with before | rfl
        · exact unlisted before
        · rw [entered.free] at found
          cases found
      · rcases gains.origin h g found with before | ⟨same, member⟩
        · rw [entered.lookup] at before
          split at before
          · rename_i same
            cases before
            exact .inr ⟨same.symm, List.mem_cons_self⟩
          · exact .inl before
        · exact .inr ⟨same, List.mem_cons_of_mem f member⟩

/-- A class comes with its members, or leaves some of them and takes along what its host had
listed. -/
theorem registerInstance_gains (template : TypeHash) (made : ClassInstance) (s : Session) :
    ∃ r, (exec (registerInstance template made) s).2 = { s with registry := r } ∧
      Registry.Gains made.decl.listed made.functions s.registry r := by
  cases free : s.registry.type? made.decl.hash with
  | some existing =>
    obtain ⟨e, refused⟩ := exec_registerInstance_taken (s := s) template
      (show (s.registry.type? made.decl.hash).isSome by rw [free]; rfl)
    rw [refused]
    exact ⟨s.registry, rfl, ⟨rfl, rfl⟩, fun _ _ found _ => found, fun _ _ found => .inl found⟩
  | none =>
    have present := Registry.class?_addType s.registry made.decl
    obtain ⟨r, ran, gains⟩ := registerMembers_gains template made.decl.hash made.functions
      { s with registry := s.registry.addType (.classType made.decl) } present
    refine ⟨r, ?_, gains.templates, gains.kept, gains.origin⟩
    rw [exec_registerInstance_free template free, ← ran]
    split <;> rename_i h <;> rw [h]

/-- Whatever the hosts of class templates fill in, they leave the lists of members to
registration. -/
def Registry.LeavesLists (r : Registry) : Prop :=
  ∀ template t, r.classTemplate? template = some t →
    ∀ arguments made, t.filled arguments = .ok made → made.decl.listed = []

/-! ## Events -/

/-- Whether an event is about the body of a function instance. -/
def SessionEvent.isBody : SessionEvent → Bool
  | produced .. | compiled .. | called .. => true
  | adjusted .. | filled .. | completed .. => false

namespace Session

/-- The events between two sessions, the second of which is a later one. -/
def eventsUntil (s s' : Session) : List SessionEvent := s'.trace.drop s.trace.length

theorem eventsUntil_of_append {s s' : Session} {events : List SessionEvent}
    (h : s'.trace = s.trace ++ events) : s.eventsUntil s' = events := by
  rw [eventsUntil, h, List.drop_left]

theorem trace_eq_of_isPrefix {s s' : Session} (h : s.trace <+: s'.trace) :
    s'.trace = s.trace ++ s.eventsUntil s' := by
  obtain ⟨events, h⟩ := h
  rw [eventsUntil_of_append h.symm, h]

theorem eventsUntil_trans {a b c : Session} (h : a.trace <+: b.trace) (h' : b.trace <+: c.trace) :
    a.eventsUntil c = a.eventsUntil b ++ b.eventsUntil c := by
  apply eventsUntil_of_append
  rw [trace_eq_of_isPrefix h', trace_eq_of_isPrefix h, List.append_assoc]

/-- Between the two sessions a host was asked to fill in an instance of a class template, and the
instance that it gave is such. -/
def Gives (s s' : Session) (such : ClassInstance → Prop) : Prop :=
  ∃ template t arguments made, s.registry.classTemplate? template = some t ∧
    t.filled arguments = .ok made ∧ such made ∧
    .filled (t.instanceDecl arguments).qualifiedName arguments ∈ s.eventsUntil s'

/-- A host gave this member to a class instance. -/
def Fills (s s' : Session) (f : FunctionDecl) : Prop := s.Gives s' fun made => f ∈ made.functions

/-- A host put this function on the lists of a class instance. -/
def Lists (s s' : Session) (hash : TypeHash) : Prop :=
  s.Gives s' fun made => hash ∈ made.decl.listed

namespace Gives

variable {a b c : Session} {such : ClassInstance → Prop}

theorem later (gives : a.Gives b such) (h : a.trace <+: b.trace) (h' : b.trace <+: c.trace) :
    a.Gives c such := by
  obtain ⟨template, t, arguments, made, found, filled, holds, event⟩ := gives
  refine ⟨template, t, arguments, made, found, filled, holds, ?_⟩
  rw [eventsUntil_trans h h']
  exact List.mem_append_left _ event

theorem earlier (gives : b.Gives c such) (templates : Registry.SameTemplates a.registry b.registry)
    (h : a.trace <+: b.trace) (h' : b.trace <+: c.trace) : a.Gives c such := by
  obtain ⟨template, t, arguments, made, found, filled, holds, event⟩ := gives
  refine ⟨template, t, arguments, made, ?_, filled, holds, ?_⟩
  · rwa [Registry.classTemplate?, templates.2] at found
  · rw [eventsUntil_trans h h']
    exact List.mem_append_right _ event

end Gives

/-- Hosts that leave the lists to registration put nothing on them. -/
theorem not_lists {s s' : Session} (lists : s.registry.LeavesLists) (hash : TypeHash) :
    ¬s.Lists s' hash := by
  rintro ⟨template, t, arguments, made, found, filled, member, -⟩
  rw [lists template t found arguments made filled] at member
  cases member

/-- Nothing is registered under this identity, or a host has listed what was. -/
def Frees (s s' : Session) (hash : TypeHash) : Prop :=
  s.registry.function? hash = none ∨ s.Lists s' hash

/-! ## Looking -/

/-- What looking things up may have done: no function instance is built, no body is asked for,
functions stay unless a host has listed them, and only members of class instances are new, besides
those in `declared`. -/
structure Looks (declared : List TypeHash) (s s' : Session) : Prop where
  templates : Registry.SameTemplates s.registry s'.registry
  instances : ∀ key, (s'.cache .function).get? key = (s.cache .function).get? key
  trace : s.trace <+: s'.trace
  bodiless : ∀ event ∈ s.eventsUntil s', event.isBody = false
  kept : ∀ hash f, s.registry.function? hash = some f →
    s'.registry.function? hash = some f ∨ s.Lists s' hash
  origin : ∀ hash f, s'.registry.function? hash = some f →
    s.registry.function? hash = some f ∨ (f.hash = hash ∧ (s.Fills s' f ∨ hash ∈ declared))

namespace Looks

variable {declared declared' : List TypeHash} {s s' : Session}

/-- Only events are added. -/
theorem of_events (events : List SessionEvent) (registry : s'.registry = s.registry)
    (instances : ∀ key, (s'.cache .function).get? key = (s.cache .function).get? key)
    (trace : s'.trace = s.trace ++ events) (bodiless : ∀ event ∈ events, event.isBody = false) :
    Looks [] s s' where
  templates := by rw [registry]; exact ⟨rfl, rfl⟩
  instances := instances
  trace := ⟨events, trace.symm⟩
  bodiless := by rwa [eventsUntil_of_append trace]
  kept _ _ found := by rw [registry]; exact .inl found
  origin _ _ found := by rw [registry] at found; exact .inl found

/-- Nothing happens but in the books of instances that are being made. -/
theorem of_books (registry : s'.registry = s.registry)
    (instances : ∀ key, (s'.cache .function).get? key = (s.cache .function).get? key)
    (trace : s'.trace = s.trace) : Looks [] s s' :=
  of_events [] registry instances (by rw [trace, List.append_nil]) (by simp)

theorem refl (s : Session) : Looks [] s s := of_books rfl (fun _ => rfl) rfl

theorem trans {a b c : Session} (h : Looks declared a b) (h' : Looks declared' b c) :
    Looks (declared ++ declared') a c where
  templates := h.templates.trans h'.templates
  instances key := (h'.instances key).trans (h.instances key)
  trace := h.trace.trans h'.trace
  bodiless event member := by
    rw [eventsUntil_trans h.trace h'.trace, List.mem_append] at member
    exact member.elim (h.bodiless event) (h'.bodiless event)
  kept hash f found := by
    rcases h.kept hash f found with still | lists
    · exact (h'.kept hash f still).imp_right (Gives.earlier · h.templates h.trace h'.trace)
    · exact .inr (lists.later h.trace h'.trace)
  origin hash f found := by
    rcases h'.origin hash f found with before | ⟨same, fills | later⟩
    · rcases h.origin hash f before with before | ⟨same, fills | earlier⟩
      · exact .inl before
      · exact .inr ⟨same, .inl (fills.later h.trace h'.trace)⟩
      · exact .inr ⟨same, .inr (List.mem_append_left _ earlier)⟩
    · exact .inr ⟨same, .inl (fills.earlier h.templates h.trace h'.trace)⟩
    · exact .inr ⟨same, .inr (List.mem_append_right _ later)⟩

/-- What is not registered afterwards was not registered before, or it was listed. -/
theorem frees (h : Looks declared s s') {hash : TypeHash}
    (free : s'.registry.function? hash = none) : s.Frees s' hash := by
  cases known : s.registry.function? hash with
  | none => exact .inl known
  | some f =>
    refine (h.kept hash f known).imp (fun still => ?_) id
    cases still.symm.trans free

/-- What is freed later on is freed from the start. -/
theorem frees_of_later {a b c : Session} (h : Looks declared a b) (h' : b.trace <+: c.trace)
    {hash : TypeHash} (frees : b.Frees c hash) : a.Frees c hash := by
  rcases frees with free | lists
  · exact (h.frees free).imp_right (Gives.later · h.trace h')
  · exact .inr (lists.earlier h.templates h.trace h')

/-- Changes of types, names and the like. -/
theorem of_functions {r : Registry} (templates : Registry.SameTemplates s.registry r)
    (functions : r.functions = s.registry.functions) : Looks [] s { s with registry := r } where
  templates := templates
  instances _ := rfl
  trace := List.prefix_refl _
  bodiless _ member := by simp [eventsUntil] at member
  kept _ _ found := by rw [Registry.function?, functions]; exact .inl found
  origin _ _ found := by
    rw [Registry.function?, functions] at found
    exact .inl found

/-- A function has entered. -/
theorem of_entered {r : Registry} {f : FunctionDecl} (entered : Registry.Entered f s.registry r) :
    Looks [f.hash] s { s with registry := r } where
  templates := entered.templates
  instances _ := rfl
  trace := List.prefix_refl _
  bodiless _ member := by simp [eventsUntil] at member
  kept _ _ found := .inl (entered.kept found)
  origin hash g found := by
    rw [entered.lookup] at found
    split at found
    · rename_i same
      cases found
      exact .inr ⟨same.symm, .inr (List.mem_singleton.mpr same)⟩
    · exact .inl found

/-- Functions stay under their own identity. -/
theorem soundFunctions (h : Looks declared s s') (sound : s.registry.SoundFunctions) :
    s'.registry.SoundFunctions := by
  intro hash f found
  rcases h.origin hash f found with before | ⟨same, -⟩
  · exact sound hash f before
  · exact same

/-! ## Class instances -/

theorem asked (t : ClassTemplate) (arguments : List TemplateArgument) (s : Session) :
    Looks [] s (t.asked arguments s) := by
  unfold ClassTemplate.asked
  split
  · exact refl s
  · exact of_events [_] rfl (fun _ => rfl) rfl (by simp [SessionEvent.isBody])

/-- Members, and what else is listed, come from a host that was asked: the built-in list type has
none. -/
theorem gives_asked {template : TypeHash} {t : ClassTemplate} {arguments : List TemplateArgument}
    (found : s.registry.classTemplate? template = some t) {made : ClassInstance}
    (filled : t.filled arguments = .ok made)
    (more : made.functions ≠ [] ∨ made.decl.listed ≠ []) {such : ClassInstance → Prop}
    (holds : such made) : s.Gives (t.asked arguments s) such := by
  cases host : t.backend with
  | elementList =>
    simp only [ClassTemplate.filled, host] at filled
    rw [fillElementList_eq filled] at more
    exact more.elim (absurd rfl) (absurd rfl)
  | host fill =>
    refine ⟨template, t, arguments, made, found, filled, holds, ?_⟩
    have trace : (t.asked arguments s).trace =
        s.trace ++ [.filled (t.instanceDecl arguments).qualifiedName arguments] := by
      simp only [ClassTemplate.asked, host]
      rfl
    rw [eventsUntil_of_append trace]
    exact List.mem_singleton_self _

theorem buildClass {template : TypeHash} {t : ClassTemplate}
    (found : s.registry.classTemplate? template = some t) (arguments : List TemplateArgument) :
    Looks [] s (exec (buildClass t arguments) s).2 := by
  rw [exec_buildClass]
  split
  · exact refl s
  · cases filled : t.filled arguments with
    | error reason => exact asked t arguments s
    | ok made =>
      simp only []
      obtain ⟨r, ran, gains⟩ := registerInstance_gains t.hash made (t.asked arguments s)
      have before := asked t arguments s
      rw [t.asked_registry] at gains
      rw [ran]
      -- The members are those of the instance that the host has just filled in, and so is the list.
      refine ⟨gains.templates, before.instances, before.trace, before.bodiless,
        fun hash f known => ?_, fun hash f known => ?_⟩
      · by_cases listed : hash ∈ made.decl.listed
        · exact .inr (gives_asked found filled (.inr (List.ne_nil_of_mem listed)) listed)
        · exact .inl (gains.kept hash f known listed)
      · rcases gains.origin hash f known with known | ⟨same, member⟩
        · exact .inl known
        · have given := List.ne_nil_of_mem member
          exact .inr ⟨same, .inl (gives_asked found filled (.inl given) member)⟩

theorem opened_classType (s : Session) (key : InstanceKey) : Looks [] s (s.opened .classType key) :=
  of_books rfl (fun _ => rfl) rfl

theorem closed_classType (s : Session) (key : InstanceKey)
    (outcome : Except TemplateError TypeHash) : Looks [] s (s.closed .classType key outcome) := by
  cases outcome with
  | ok hash => exact of_events [_] rfl (fun _ => rfl) rfl (by simp [SessionEvent.isBody])
  | error e => exact of_books rfl (fun _ => rfl) rfl

theorem instantiateClass (template : TypeHash) (explicit : List TemplateArgument) (s : Session) :
    Looks [] s (exec (instantiateClass template explicit) s).2 := by
  rw [exec_instantiateClass]
  cases found : s.registry.classTemplate? template with
  | none => exact refl s
  | some t =>
    simp only []
    split
    · exact refl s
    · rename_i arguments _
      rcases exec_instantiateOnce_cases s .classType ⟨template, arguments⟩
        (ScriptSemantics.buildClass t arguments) with ⟨_, -, ran⟩ | ⟨-, ran⟩ | ⟨-, _, ran⟩
      · rw [ran]
        exact refl s
      · rw [ran]
        -- Opened, built and closed.
        have inside := @buildClass (s.opened .classType ⟨template, arguments⟩) template t found
          arguments
        exact (opened_classType s _).trans (inside.trans (closed_classType _ _ _))
      · rw [ran]
        exact refl s

end Looks

/-! ## Everything that is looked up -/

/-- Whatever is looked up or substituted. -/
theorem Looks.tracksLookup : TracksLookup (Looks []) where
  refl := refl
  trans _ _ _ h h' := h.trans h'
  adjusted _ _ _ := of_events [_] rfl (fun _ => rfl) rfl (by simp [SessionEvent.isBody])
  intern s f := by
    refine of_functions ?_ ?_ <;> unfold Registry.intern <;> split <;>
      first | rfl | exact ⟨rfl, rfl⟩
  instantiateClass := instantiateClass

end Session

end ScriptSemantics
