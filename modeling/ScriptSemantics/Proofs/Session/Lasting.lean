import ScriptSemantics.Proofs.Session.ClassInstances

/-!
# What Lasts in a Session

As long as the host takes no type out, types stay what they are: only classes gain members. A class
instance that fails is taken out again, but its identity was free when it entered, so nothing from
before goes with it. Class instances stay on record too.

An instance may be registered without being on record, for instance when a session starts on the
registry of an earlier one. If it has the identity that is computed for its key, then a request for
the key finds that identity taken and returns it. `Session.Returns` covers both cases, and what a
key returns lasts: `Session.Returns.of_lasts`.
-/

namespace ScriptSemantics

/-- Whatever the hosts do, but types are not taken out. -/
def Permits.lasting : Permits where
  backend _ := True
  removal := False

/-! ## Types -/

namespace Registry

/-- Types stay what they are, except that classes may change their members. -/
def KeepsShapes (r r' : Registry) : Prop :=
  ∀ hash decl, r.type? hash = some decl →
    r'.type? hash = some decl ∨
      ∃ c c', decl = .classType c ∧ r'.type? hash = some (.classType c')

namespace KeepsShapes

theorem of_types_eq {r r' : Registry} (same : r'.types = r.types) : KeepsShapes r r' := by
  intro hash decl found
  rw [type?, same]
  exact .inl found

theorem refl (r : Registry) : KeepsShapes r r := of_types_eq rfl

theorem trans (a b c : Registry) (h : KeepsShapes a b) (h' : KeepsShapes b c) :
    KeepsShapes a c := by
  intro hash decl found
  rcases h hash decl found with same | ⟨d, d', rfl, changed⟩
  · exact h' hash decl same
  · rcases h' hash _ changed with same' | ⟨_, d'', -, changed'⟩
    · exact .inr ⟨d, d', rfl, same'⟩
    · exact .inr ⟨d, d'', rfl, changed'⟩

theorem insert (r : Registry) (decl : TypeDecl) (free : r.type? decl.hash = none) :
    KeepsShapes r { r with types := r.types.insert decl.hash decl } := by
  intro hash known found
  have other : hash ≠ decl.hash := by
    rintro rfl
    cases free.symm.trans found
  left
  simp only [type?, Table.get?_insert, if_neg other]
  exact found

theorem modifyClass (r : Registry) (hash : TypeHash) (change : ClassDecl → ClassDecl) :
    KeepsShapes r (r.modifyClass hash change) := by
  intro other decl found
  simp only [type?, Registry.modifyClass, Table.get?_modify]
  split
  · rw [show r.types.get? other = some decl from found]
    cases decl with
    | classType c => exact .inr ⟨c, change c, rfl, rfl⟩
    | fundamental _ | enumType _ | functionType _ | closure _ | placeholder _ | pattern _ =>
      exact .inl rfl
  · exact .inl found

/-- What was free later was free before. -/
theorem free {r r' : Registry} (h : KeepsShapes r r') {hash : TypeHash}
    (free' : r'.type? hash = none) : r.type? hash = none := by
  cases found : r.type? hash with
  | none => rfl
  | some decl =>
    rcases h hash decl found with same | ⟨_, _, -, changed⟩
    · cases free'.symm.trans same
    · cases free'.symm.trans changed

/-- What was entered under a free identity goes without harm to what was there before. -/
theorem removeType {r r' : Registry} (keeps : KeepsShapes r r') {hash : TypeHash}
    (wasFree : r.type? hash = none) : KeepsShapes r (r'.removeType hash).2 := by
  intro other decl found
  have different : other ≠ hash := by
    rintro rfl
    cases wasFree.symm.trans found
  rw [(removeType_keeps r' hash).2 other different]
  exact keeps other decl found

end KeepsShapes

theorem Changes.keepsShapes {r r' : Registry} (h : Changes .lasting r r') : KeepsShapes r r' := by
  refine h.lift KeepsShapes.refl KeepsShapes.trans fun a b step => ?_
  cases step with
  | type decl free => exact .insert a decl free
  | members hash change keeps => exact .modifyClass a hash change
  | removal hash allowed => exact absurd allowed id
  | names | functions | globals | operators | functionTemplate | classTemplate
  | functionBackend | classBackend => exact .of_types_eq rfl

end Registry

/-- Whether it succeeds or not, registering an instance keeps types and class templates. -/
theorem registerInstance_keepsShapes (template : TypeHash) (made : ClassInstance) (s : Session) :
    ∃ outcome r, exec (registerInstance template made) s = (outcome, { s with registry := r }) ∧
      Registry.KeepsShapes s.registry r ∧
      (s.registry.SoundTemplates .lasting → r.SoundTemplates .lasting) := by
  cases free : s.registry.type? made.decl.hash with
  | some existing =>
    obtain ⟨e, refused⟩ := exec_registerInstance_taken (s := s) template
      (show (s.registry.type? made.decl.hash).isSome by rw [free]; rfl)
    exact ⟨_, s.registry, refused, .refl _, id⟩
  | none =>
    have added : Registry.Changes .lasting s.registry (s.registry.addType (.classType made.decl)) :=
      Registry.changes_addType _ _ free
    obtain ⟨r, changes, outcome⟩ := @exec_registerMembers_cases .lasting template made.decl.hash
      made.functions { s with registry := s.registry.addType (.classType made.decl) }
    have all := Registry.Changes.trans _ _ _ added changes
    rw [exec_registerInstance_free template free]
    rcases outcome with done | ⟨e, undone⟩
    · rw [done]
      exact ⟨_, r, rfl, all.keepsShapes, all.soundTemplates⟩
    · -- The rollback takes out the identity that was free at the start.
      rw [undone]
      refine ⟨_, _, rfl, all.keepsShapes.removeType free, fun sound hash t found => ?_⟩
      rw [Registry.classTemplate?, (r.removeType_keeps made.decl.hash).1] at found
      exact all.soundTemplates sound hash t found

/-- An identity that is taken is what the builder returns. -/
theorem exec_buildClass_taken {t : ClassTemplate} {arguments : List TemplateArgument} {s : Session}
    (taken : (s.registry.type? (t.instanceDecl arguments).hash).isSome) :
    exec (buildClass t arguments) s = (.ok (t.instanceDecl arguments).hash, s) := by
  rw [exec_buildClass, if_pos taken]

theorem buildClass_keepsShapes (t : ClassTemplate) (arguments : List TemplateArgument)
    (s : Session) :
    let s' := (exec (buildClass t arguments) s).2
    (∀ kind, s'.cache kind = s.cache kind) ∧ Registry.KeepsShapes s.registry s'.registry ∧
      (s.registry.SoundTemplates .lasting → s'.registry.SoundTemplates .lasting) := by
  rw [exec_buildClass]
  split
  · exact ⟨fun _ => rfl, .refl _, id⟩
  · have asked := t.asked_registry arguments s
    have caches := t.asked_cache arguments s
    cases t.filled arguments with
    | error reason =>
      refine ⟨caches, ?_, ?_⟩
      · simp only [asked]
        exact .refl _
      · simp only [asked]
        exact id
    | ok made =>
      obtain ⟨outcome, r, ran, shapes, sound⟩ :=
        registerInstance_keepsShapes t.hash made (t.asked arguments s)
      rw [asked] at shapes sound
      simp only [ran]
      exact ⟨caches, shapes, sound⟩

/-! ## Instances -/

/-- The identity computed for an instance. -/
def InstanceKey.identity (key : InstanceKey) : TypeHash :=
  .ofTemplateInstance key.template key.arguments

namespace Session

/-- Types, class templates and the class instances on record stay. Where the identity computed for a
key was taken, the key gets no other. -/
structure Lasts (s s' : Session) : Prop where
  shapes : Registry.KeepsShapes s.registry s'.registry
  templates : ∀ template interface, s.registry.interface? .classType template = some interface →
    s'.registry.interface? .classType template = some interface
  recorded : ∀ key hash, (s.cache .classType).get? key = some hash →
    (s'.cache .classType).get? key = some hash
  anew : ∀ key hash, (s'.cache .classType).get? key = some hash →
    (s.cache .classType).get? key = some hash ∨ s.registry.type? key.identity = none ∨
      hash = key.identity

theorem Lasts.trans {a b c : Session} (h : Lasts a b) (h' : Lasts b c) : Lasts a c where
  shapes := .trans _ _ _ h.shapes h'.shapes
  templates _ _ found := h'.templates _ _ (h.templates _ _ found)
  recorded _ _ found := h'.recorded _ _ (h.recorded _ _ found)
  anew key hash found := by
    rcases h'.anew key hash found with before | free | own
    · exact h.anew key hash before
    · exact .inr (.inl (h.shapes.free free))
    · exact .inr (.inr own)

/-- What lasts in sessions whose class templates are found under their own identity. -/
def Lasting (s s' : Session) : Prop :=
  s.registry.SoundTemplates .lasting → s'.registry.SoundTemplates .lasting ∧ Lasts s s'

namespace Lasting

/-- What touches neither the registry nor the class instances. -/
theorem of_eq {s s' : Session} (registry : s'.registry = s.registry)
    (instances : s'.cache .classType = s.cache .classType) : Lasting s s' := by
  intro sound
  refine ⟨by rwa [registry], ?_, ?_, ?_, ?_⟩
  · rw [registry]
    exact .refl _
  · rw [registry]
    exact fun _ _ found => found
  · rw [instances]
    exact fun _ _ found => found
  · rw [instances]
    exact fun _ _ found => .inl found

theorem refl (s : Session) : Lasting s s := of_eq rfl rfl

theorem trans (a b c : Session) (h : Lasting a b) (h' : Lasting b c) : Lasting a c := by
  intro sound
  obtain ⟨sound₁, lasts₁⟩ := h sound
  obtain ⟨sound₂, lasts₂⟩ := h' sound₁
  exact ⟨sound₂, lasts₁.trans lasts₂⟩

theorem registry (s : Session) {r : Registry}
    (changes : Registry.Changes .lasting s.registry r) : Lasting s { s with registry := r } :=
  fun sound => ⟨changes.soundTemplates sound, changes.keepsShapes,
    fun _ _ found => changes.interface? found, fun _ _ found => found, fun _ _ found => .inl found⟩

theorem instantiateClass (template : TypeHash) (explicit : List TemplateArgument) :
    Respects Lasting (instantiateClass template explicit) := by
  intro s sound
  have grows := Grows.instantiateClass template explicit s
  rw [exec_instantiateClass] at grows ⊢
  cases known : s.registry.classTemplate? template with
  | none => exact refl s sound
  | some t =>
    obtain ⟨rfl, -⟩ := sound template t known
    simp only [known] at grows ⊢
    cases completed : completedFor s.registry t.hash t explicit with
    | error e => exact refl s sound
    | ok arguments =>
      simp only [completed] at grows ⊢
      rcases exec_instantiateOnce_cases s .classType ⟨t.hash, arguments⟩ (buildClass t arguments)
        with ⟨_, -, ran⟩ | ⟨canOpen, ran⟩ | ⟨-, _, ran⟩
      · rw [ran]
        exact refl s sound
      · rw [ran] at grows ⊢
        obtain ⟨caches, shapes, sound'⟩ := buildClass_keepsShapes t arguments
          (s.opened .classType ⟨t.hash, arguments⟩)
        refine ⟨by rw [registry_closed]; exact sound' sound, by rw [registry_closed]; exact shapes,
          grows.templates _, grows.completed _, fun key hash found => ?_⟩
        -- A record that was not there before is the one that was just made.
        rcases built : exec (buildClass t arguments) (s.opened .classType ⟨t.hash, arguments⟩) with
          ⟨e | made, s₁⟩
        · rw [built, get?_closed_error] at found
          rw [built] at caches
          rw [caches, get?_opened] at found
          exact .inl found
        · rw [built] at caches
          rw [built, get?_closed_ok] at found
          split at found
          · rename_i same
            obtain ⟨-, rfl⟩ := same
            cases found
            by_cases taken : (s.registry.type? (t.instanceDecl arguments).hash).isSome
            · have returned := exec_buildClass_taken
                (s := s.opened .classType ⟨t.hash, arguments⟩) taken
              cases built.symm.trans returned
              exact .inr (.inr rfl)
            · exact .inr (.inl (Option.not_isSome_iff_eq_none.mp taken))
          · rw [caches, get?_opened] at found
            exact .inl found
      · rw [ran]
        exact refl s sound

/-- Constructions of function instances do not touch the class instances on record. -/
theorem instantiateFunctionOnce (key : InstanceKey) {build : InstantiationM TypeHash}
    (h : Respects Lasting build) : Respects Lasting (instantiateOnce .function key build) := by
  intro s
  rcases exec_instantiateOnce_cases s .function key build with
    ⟨_, -, ran⟩ | ⟨-, ran⟩ | ⟨-, _, ran⟩
  · rw [ran]
    exact refl s
  · rw [ran]
    have opened : Lasting s (s.opened .function key) := of_eq rfl rfl
    refine trans _ _ _ opened (trans _ _ _ (h _) ?_)
    cases (exec build (s.opened .function key)).1 <;> exact of_eq rfl rfl
  · rw [ran]
    exact refl s

theorem tracks : Tracks Lasting where
  refl := refl
  trans := trans
  record _ _ _ := of_eq rfl rfl
  intern s _ := registry s (Registry.intern_changes s.registry _)
  registerFunction s f := registry s (Registry.registerFunction_changes f s.registry)
  updateFunction s f := registry s (Registry.updateFunction_changes f s.registry)
  removeFunction s hash := registry s (Registry.removeFunction_changes s.registry hash)
  instantiateClass := instantiateClass
  instantiateOnce s _ _ _ _ _ inside := instantiateFunctionOnce _ inside s

end Lasting

/-- By induction on the run, one move at a time. -/
theorem Later.lasting {s s' : Session} (later : s.Later .lasting s') : Lasting s s' := by
  refine later.lift Lasting.refl Lasting.trans fun a b move => ?_
  refine move.lift Lasting.tracks (fun _ _ lasting => lasting) Lasting.trans ?_ ?_ ?_ ?_
  · exact fun s r changes => .registry s changes
  · exact fun s _ => .of_eq rfl rfl
  · exact fun s key _ => .of_eq rfl rfl
  · intro s key outcome _
    cases outcome <;> exact .of_eq rfl rfl

/-- In every run, types taken out or not, class templates are found under their own identity. -/
theorem Later.soundTemplates {s s' : Session} (later : s.Later .all s')
    (sound : s.registry.SoundTemplates .lasting) : s'.registry.SoundTemplates .lasting := by
  refine later.lift (R := fun a b => a.registry.SoundTemplates .lasting →
    b.registry.SoundTemplates .lasting)
    (fun _ h => h) (fun _ _ _ h h' sound => h' (h sound)) ?_ sound
  intro a b move
  refine move.lift Lasting.tracks (fun _ _ lasting sound => (lasting sound).1)
    (fun _ _ _ h h' sound => h' (h sound)) ?_ ?_ ?_ ?_
  · exact fun s r changes sound => changes.soundTemplates sound
  · exact fun s _ sound => sound
  · exact fun s key _ sound => sound
  · intro s key outcome _ sound
    rwa [registry_closed]

/-! ## What a request returns -/

/-- The key is complete, and the identity is what a request for it returns, if it succeeds: it is on
record for the key, or the key has no record and its computed identity is taken. -/
structure Returns (s : Session) (key : InstanceKey) (hash : TypeHash) : Prop where
  complete : s.key? .classType key.template key.arguments = some key
  identity : (s.cache .classType).get? key = some hash ∨
    (s.cache .classType).get? key = none ∧ hash = key.identity ∧ (s.registry.type? hash).isSome

namespace Returns

variable {s s' : Session} {key : InstanceKey} {hash : TypeHash}

theorem of_lasts (returns : s.Returns key hash) (lasts : Lasts s s') : s'.Returns key hash := by
  refine ⟨key?_of_remembered returns.complete fun interface => lasts.templates _ interface, ?_⟩
  rcases returns.identity with found | ⟨unrecorded, rfl, taken⟩
  · exact .inl (lasts.recorded key hash found)
  · cases found : (s'.cache .classType).get? key with
    | none =>
      refine .inr ⟨rfl, rfl, ?_⟩
      rw [Option.isSome_iff_ne_none] at taken ⊢
      exact fun free => taken (lasts.shapes.free free)
    | some made =>
      -- A record made since then has the identity that was taken.
      left
      rcases lasts.anew key made found with before | free | rfl
      · cases before.symm.trans unrecorded
      · rw [free] at taken
        cases taken
      · rfl

/-- A request that has succeeded leaves its key with what it returned. -/
theorem of_instantiateClass {template : TypeHash} {explicit : List TemplateArgument}
    (keyed : s.key? .classType template explicit = some key)
    (ran : exec (instantiateClass template explicit) s = (.ok hash, s')) : s'.Returns key hash := by
  have grows : Grows s s' := by
    simpa only [ran] using Grows.instantiateClass template explicit s
  obtain ⟨build, asOnce⟩ := (Requests.classType template explicit).exec_eq keyed
  rw [asOnce] at ran
  exact ⟨key?_of_remembered keyed fun _ known => grows.templates _ _ _ known,
    .inl (get?_of_exec_instantiateOnce ran)⟩

/-- What it says, in the session at hand. -/
theorem eq_of_instantiateClass (returns : s.Returns key hash)
    (sound : s.registry.SoundTemplates .lasting) {returned : TypeHash}
    (ran : exec (instantiateClass key.template key.arguments) s = (.ok returned, s')) :
    returned = hash := by
  obtain ⟨-, params, path, known, completed⟩ := key?_eq_some_iff.1 returns.complete
  obtain ⟨t, found, interface⟩ := Option.map_eq_some_iff.1 known
  cases interface
  have own := (sound key.template t found).1
  have completedAs : completedFor s.registry key.template t key.arguments = .ok key.arguments :=
    completed
  rw [exec_instantiateClass] at ran
  simp only [found, completedAs] at ran
  rcases exec_instantiateOnce_cases s .classType key (buildClass t key.arguments) with
    ⟨onRecord, recorded, ran'⟩ | ⟨canOpen, ran'⟩ | ⟨-, _, ran'⟩
  · cases ran.symm.trans ran'
    rcases returns.identity with recorded' | ⟨unrecorded, -⟩
    · exact Option.some.inj (recorded.symm.trans recorded')
    · cases recorded.symm.trans unrecorded
  · rcases returns.identity with recorded | ⟨-, rfl, taken⟩
    · cases canOpen.unbuilt.symm.trans recorded
    · -- The builder finds the identity taken.
      have same : (t.instanceDecl key.arguments).hash = key.identity := by
        rw [InstanceKey.identity, ← own]
        rfl
      rw [exec_buildClass_taken (s := s.opened .classType key) (same ▸ taken), same] at ran'
      cases ran.symm.trans ran'
      rfl
  · cases ran.symm.trans ran'

end Returns

end Session

end ScriptSemantics
