import ScriptSemantics.Proofs.Session.Memoization

/-!
# Class Instances and Their Identities

A class instance is registered under an identity computed from its template and its completed
arguments. A request looks at that identity before it builds anything: where it is taken already,
the request succeeds with it, whatever it stands for. This file says when the identity that a
request returns is the instance that was asked for. That is so exactly if the identity was free, or
stood for that instance before.
-/

namespace ScriptSemantics

/-! ## Faithful hosts -/

/-- The host leaves the identity, the template and the arguments of an instance alone. -/
def ClassBackend.Faithful : ClassBackend → Prop
  | .elementList => True
  | .host fill => ∀ arguments made filled, fill arguments made = .ok filled →
      filled.decl.hash = made.decl.hash ∧ filled.decl.template = made.decl.template ∧
        filled.decl.templateArgs = made.decl.templateArgs

/-- Hosts are faithful, and types are not taken out. -/
def Permits.faithful : Permits where
  backend := ClassBackend.Faithful
  removal := False

theorem ClassTemplate.filled_faithful {t : ClassTemplate} {arguments : List TemplateArgument}
    {made : ClassInstance} (faithful : t.backend.Faithful)
    (filled : t.filled arguments = .ok made) :
    made.decl.hash = (t.instanceDecl arguments).hash ∧ made.decl.template = some t.hash ∧
      made.decl.templateArgs = arguments := by
  unfold ClassTemplate.filled at filled
  cases backend : t.backend with
  | elementList =>
    rw [backend] at filled
    rw [fillElementList_eq filled]
    exact ⟨rfl, rfl, rfl⟩
  | host fill =>
    rw [backend] at filled faithful
    exact faithful _ _ _ filled

/-! ## Registering an instance -/

namespace Registry

theorem removeType_keeps (r : Registry) (hash : TypeHash) :
    (r.removeType hash).2.classTemplates = r.classTemplates ∧
      ∀ other, other ≠ hash → (r.removeType hash).2.type? other = r.type? other := by
  have erased : ∀ other, other ≠ hash → (r.types.erase hash).get? other = r.type? other := by
    intro other different
    rw [Table.get?_erase, if_neg different]
    rfl
  cases found : r.type? hash with
  | none =>
    have nothing : (r.removeType hash).2 = r := by simp only [removeType, found]
    rw [nothing]
    exact ⟨rfl, fun _ _ => rfl⟩
  | some decl =>
    cases decl with
    | classType c =>
      rw [removeType_classType found]
      exact ⟨rfl, erased⟩
    | fundamental _ | enumType _ | functionType _ | closure _ | placeholder _ | pattern _ =>
      have out : (r.removeType hash).2 = { r with types := r.types.erase hash } := by
        simp only [removeType, found]
      rw [out]
      exact ⟨rfl, erased⟩

/-- Where the identity is taken, whether it stands for an instance is settled already. -/
theorem holdsInstance_iff_of_taken {r : Registry} {hash : TypeHash} (taken : (r.type? hash).isSome)
    (template : TypeHash) (arguments : List TemplateArgument) :
    r.HoldsInstance hash template arguments ↔
      r.type? hash = none ∨ r.HoldsInstance hash template arguments := by
  constructor
  · exact .inr
  · rintro (free | held)
    · rw [free] at taken
      cases taken
    · exact held

/-- An identity stands for one instance at most. -/
theorem HoldsInstance.arguments_eq {r : Registry} {hash template : TypeHash}
    {arguments arguments' : List TemplateArgument}
    (held : r.HoldsInstance hash template arguments)
    (held' : r.HoldsInstance hash template arguments') : arguments' = arguments := by
  obtain ⟨c, found, -, rfl⟩ := held
  obtain ⟨c', found', -, rfl⟩ := held'
  obtain rfl : c' = c := Option.some.inj (found'.symm.trans found)
  rfl

/-- What was entered under a free identity goes without harm to what was there before. -/
theorem KeepsTypes.removeType {r r' : Registry} (keeps : KeepsTypes r r') {hash : TypeHash}
    (free : r.type? hash = none) : KeepsTypes r (r'.removeType hash).2 := by
  have others := (removeType_keeps r' hash).2
  have different : ∀ other, (r.type? other).isSome → other ≠ hash := by
    rintro other taken rfl
    rw [free] at taken
    cases taken
  constructor
  · intro other taken
    rw [others other (different other taken)]
    exact keeps.taken other taken
  · intro other template arguments held
    obtain ⟨c, found, instanceOf⟩ := keeps.instances other template arguments held
    refine ⟨c, ?_, instanceOf⟩
    rw [class?, others other (different other held.taken)]
    exact found

end Registry

/-- Registering an instance under a free identity either puts it there or leaves no trace of it;
what was there before stays. -/
theorem exec_registerInstance_faithful {s : Session} {template : TypeHash} {made : ClassInstance}
    (free : s.registry.type? made.decl.hash = none) :
    ∃ outcome r, exec (registerInstance template made) s = (outcome, { s with registry := r }) ∧
      Registry.KeepsTypes s.registry r ∧
      (s.registry.SoundTemplates .faithful → r.SoundTemplates .faithful) ∧
      ∀ hash, outcome = .ok hash → hash = made.decl.hash ∧
        ∀ ofTemplate, made.decl.template = some ofTemplate →
          r.HoldsInstance hash ofTemplate made.decl.templateArgs := by
  have added : Registry.Changes .faithful s.registry (s.registry.addType (.classType made.decl)) :=
    Registry.changes_addType _ _ free
  have keeps := added.keepsTypes id
  obtain ⟨r, changes, outcome⟩ := @exec_registerMembers_cases .faithful template made.decl.hash
    made.functions { s with registry := s.registry.addType (.classType made.decl) }
  have kept : Registry.KeepsTypes s.registry r :=
    .trans _ _ _ keeps (changes.keepsTypes id)
  have sound : s.registry.SoundTemplates .faithful → r.SoundTemplates .faithful :=
    fun sound => changes.soundTemplates (added.soundTemplates sound)
  rw [exec_registerInstance_free template free]
  rcases outcome with done | ⟨e, undone⟩
  · -- Members only add to the class that has just entered.
    rw [done]
    refine ⟨.ok made.decl.hash, r, rfl, kept, sound, ?_⟩
    rintro hash ⟨⟩
    refine ⟨rfl, fun ofTemplate known => ?_⟩
    exact (changes.keepsTypes id).instances _ _ _
      ⟨made.decl, Registry.class?_addType s.registry made.decl, known, rfl⟩
  · -- The rollback takes out that identity only, and it was free at the start.
    rw [undone]
    refine ⟨.error e, _, rfl, kept.removeType free, fun h => ?_, fun hash h => by cases h⟩
    intro hash t found
    rw [Registry.classTemplate?, (r.removeType_keeps made.decl.hash).1] at found
    exact sound h hash t found

/-- A build returns the identity of the instance. The identity is taken afterwards, and it stands
for the instance exactly if it was free or stood for the instance before. -/
theorem exec_buildClass_faithful {s : Session} {t : ClassTemplate}
    {arguments : List TemplateArgument} (faithful : t.backend.Faithful) :
    let s' := (exec (buildClass t arguments) s).2
    (∀ kind, s'.cache kind = s.cache kind) ∧
      Registry.KeepsTypes s.registry s'.registry ∧
      (s.registry.SoundTemplates .faithful → s'.registry.SoundTemplates .faithful) ∧
      ∀ hash, (exec (buildClass t arguments) s).1 = .ok hash →
        hash = .ofTemplateInstance t.hash arguments ∧ (s'.registry.type? hash).isSome ∧
          (s'.registry.HoldsInstance hash t.hash arguments ↔
            s.registry.type? hash = none ∨ s.registry.HoldsInstance hash t.hash arguments) := by
  have asked := t.asked_registry arguments s
  have caches := t.asked_cache arguments s
  rw [exec_buildClass]
  split
  · -- The early return: nothing is built, so what is under the identity is what was there.
    rename_i taken
    refine ⟨fun _ => rfl, .refl _, fun h => h, ?_⟩
    rintro hash ⟨⟩
    exact ⟨rfl, taken, Registry.holdsInstance_iff_of_taken taken _ _⟩
  · rename_i taken
    have free : s.registry.type? (t.instanceDecl arguments).hash = none := by simpa using taken
    cases filled : t.filled arguments with
    | error reason =>
      simp only [asked]
      exact ⟨caches, .refl _, fun h => h, fun hash h => by cases h⟩
    | ok made =>
      obtain ⟨identity, ofTemplate, ofArguments⟩ := t.filled_faithful faithful filled
      obtain ⟨outcome, r, ran, keeps, sound, registered⟩ :=
        @exec_registerInstance_faithful (t.asked arguments s) t.hash made
          (by rw [asked, identity]; exact free)
      rw [asked] at keeps sound
      simp only [ran]
      refine ⟨caches, keeps, sound, fun hash returned => ?_⟩
      obtain ⟨rfl, held⟩ := registered hash returned
      have instanceHeld := held t.hash ofTemplate
      rw [ofArguments] at instanceHeld
      refine ⟨identity, instanceHeld.taken, iff_of_true instanceHeld (.inl ?_)⟩
      rw [identity]
      exact free

/-! ## Along a run -/

namespace Session

/-- Templates are registered soundly, and every class instance on record has the identity of its
key, under which something is registered. -/
structure Sound (s : Session) : Prop where
  templates : s.registry.SoundTemplates .faithful
  instances : ∀ key hash, (s.cache .classType).get? key = some hash →
    hash = .ofTemplateInstance key.template key.arguments ∧ (s.registry.type? hash).isSome

/-- Sound sessions stay sound and keep their types and instances. -/
def Keeps (s s' : Session) : Prop :=
  s.Sound → s'.Sound ∧ Registry.KeepsTypes s.registry s'.registry

theorem Keeps.refl (s : Session) : Keeps s s := fun sound => ⟨sound, .refl _⟩

theorem Keeps.trans (a b c : Session) (h : Keeps a b) (h' : Keeps b c) : Keeps a c := by
  intro sound
  obtain ⟨sound₁, types₁⟩ := h sound
  obtain ⟨sound₂, types₂⟩ := h' sound₁
  exact ⟨sound₂, .trans _ _ _ types₁ types₂⟩

/-- What touches neither the registry nor the class instances keeps everything. -/
theorem Keeps.of_eq {s s' : Session} (registry : s'.registry = s.registry)
    (instances : s'.cache .classType = s.cache .classType) : Keeps s s' := by
  intro sound
  refine ⟨⟨?_, ?_⟩, ?_⟩
  · rw [registry]
    exact sound.templates
  · rw [registry, instances]
    exact sound.instances
  · rw [registry]
    exact .refl _

theorem Keeps.registry (s : Session) {r : Registry}
    (changes : Registry.Changes .faithful s.registry r) : Keeps s { s with registry := r } := by
  intro sound
  have types := changes.keepsTypes id
  refine ⟨⟨changes.soundTemplates sound.templates, fun key hash found => ?_⟩, types⟩
  obtain ⟨identity, taken⟩ := sound.instances key hash found
  exact ⟨identity, types.taken hash taken⟩

/-- A request for a class instance that has come down to its key. -/
theorem Sound.instantiateOnce {s : Session} (sound : s.Sound) {t : ClassTemplate}
    (faithful : t.backend.Faithful) (arguments : List TemplateArgument) :
    let ran := exec (instantiateOnce .classType ⟨t.hash, arguments⟩ (buildClass t arguments)) s
    ran.2.Sound ∧ Registry.KeepsTypes s.registry ran.2.registry ∧
      ∀ hash, ran.1 = .ok hash → hash = .ofTemplateInstance t.hash arguments ∧
        (ran.2.registry.HoldsInstance hash t.hash arguments ↔
          s.registry.type? hash = none ∨ s.registry.HoldsInstance hash t.hash arguments) := by
  rcases exec_instantiateOnce_cases s .classType ⟨t.hash, arguments⟩ (buildClass t arguments) with
    ⟨known, found, ran⟩ | ⟨canOpen, ran⟩ | ⟨-, e, ran⟩
  · -- An instance on record has a taken identity, and the request changes nothing.
    obtain ⟨identity, taken⟩ := sound.instances _ known found
    rw [ran]
    refine ⟨sound, .refl _, ?_⟩
    rintro hash ⟨⟩
    exact ⟨identity, Registry.holdsInstance_iff_of_taken taken _ _⟩
  · rw [ran]
    obtain ⟨caches, types, templates, returned⟩ :=
      @exec_buildClass_faithful (s.opened .classType ⟨t.hash, arguments⟩) t arguments faithful
    rcases built : exec (buildClass t arguments) (s.opened .classType ⟨t.hash, arguments⟩)
      with ⟨outcome, s₁⟩
    rw [built] at caches types templates returned
    -- Instances on record are those from before, and the new one if there is one.
    have recorded : ∀ key hash, (s₁.cache .classType).get? key = some hash →
        hash = .ofTemplateInstance key.template key.arguments ∧
          (s₁.registry.type? hash).isSome := by
      intro key hash onRecord
      rw [caches, get?_opened] at onRecord
      obtain ⟨identity, taken⟩ := sound.instances key hash onRecord
      exact ⟨identity, types.taken hash taken⟩
    cases outcome with
    | error e =>
      refine ⟨⟨templates sound.templates, fun key hash onRecord => ?_⟩, types,
        fun hash h => by cases h⟩
      rw [get?_closed_error] at onRecord
      exact recorded key hash onRecord
    | ok made =>
      obtain ⟨identity, taken, held⟩ := returned made rfl
      refine ⟨⟨templates sound.templates, fun key hash onRecord => ?_⟩, types, ?_⟩
      · rw [get?_closed_ok] at onRecord
        split at onRecord
        · rename_i same
          obtain ⟨-, rfl⟩ := same
          cases onRecord
          exact ⟨identity, taken⟩
        · exact recorded key hash onRecord
      · rintro hash ⟨⟩
        exact ⟨identity, held⟩
  · rw [ran]
    exact ⟨sound, .refl _, fun hash h => by cases h⟩

theorem Keeps.instantiateClass (template : TypeHash) (explicit : List TemplateArgument) :
    Respects Keeps (instantiateClass template explicit) := by
  intro s sound
  rw [exec_instantiateClass]
  cases known : s.registry.classTemplate? template with
  | none => exact ⟨sound, .refl _⟩
  | some t =>
    obtain ⟨rfl, faithful⟩ := sound.templates template t known
    simp only []
    cases completedFor s.registry t.hash t explicit with
    | error e => exact ⟨sound, .refl _⟩
    | ok arguments =>
      obtain ⟨after, types, -⟩ := sound.instantiateOnce faithful arguments
      exact ⟨after, types⟩

/-- Constructions of function instances do not touch the class instances on record. -/
theorem Keeps.instantiateFunctionOnce (key : InstanceKey) {build : InstantiationM TypeHash}
    (h : Respects Keeps build) : Respects Keeps (instantiateOnce .function key build) := by
  intro s
  rcases exec_instantiateOnce_cases s .function key build with
    ⟨hash, -, ran⟩ | ⟨canOpen, ran⟩ | ⟨-, e, ran⟩
  · rw [ran]
    exact .refl s
  · rw [ran]
    have opened : Keeps s (s.opened .function key) := .of_eq rfl rfl
    refine .trans _ _ _ opened (.trans _ _ _ (h _) ?_)
    cases (exec build (s.opened .function key)).1 <;> exact .of_eq rfl rfl
  · rw [ran]
    exact .refl s

theorem Keeps.tracks : Tracks Keeps where
  refl := .refl
  trans := .trans
  record _ _ _ := .of_eq rfl rfl
  intern s _ := .registry s (Registry.intern_changes s.registry _)
  registerFunction s f := .registry s (Registry.registerFunction_changes f s.registry)
  updateFunction s f := .registry s (Registry.updateFunction_changes f s.registry)
  removeFunction s hash := .registry s (Registry.removeFunction_changes s.registry hash)
  instantiateClass := .instantiateClass
  instantiateOnce s _ _ _ _ _ inside := Keeps.instantiateFunctionOnce _ inside s

theorem Later.keeps {s s' : Session} (later : s.Later .faithful s') : Keeps s s' := by
  refine later.lift Keeps.refl Keeps.trans fun a b move => ?_
  refine move.lift Keeps.tracks (fun _ _ keeps => keeps) Keeps.trans ?_ ?_ ?_ ?_
  · exact fun s r changes => .registry s changes
  · exact fun s _ => .of_eq rfl rfl
  · exact fun s key _ => .of_eq rfl rfl
  · intro s key outcome _
    cases outcome <;> exact .of_eq rfl rfl

theorem IsFresh.sound {s : Session} (fresh : s.IsFresh)
    (builtins : s.registry = Registry.withBuiltins) : s.Sound := by
  constructor
  · rw [builtins]
    have installed : Registry.Changes .faithful {} Registry.withBuiltins :=
      Registry.withBuiltins_changes trivial
    refine installed.soundTemplates fun hash t found => ?_
    cases found
  · intro key hash found
    rw [show s.cache .classType = {} from fresh.classInstances] at found
    cases found

end Session

/-! ## The instance that was asked for -/

/-- A request returns the identity computed from its template and its completed arguments. What the
registry holds under it afterwards is the instance that was asked for if and only if nothing was
registered there before, or that very instance was. Once held it stays for the rest of the run, and
a later request that returns the same identity got the instance it asked for if and only if it has
the same completed arguments. -/
theorem class_instance_held_iff {s₀ s s' : Session} (fresh : s₀.IsFresh)
    (builtins : s₀.registry = Registry.withBuiltins) (run : s₀.Later .faithful s)
    {template : TypeHash} {explicit : List TemplateArgument} {key : InstanceKey} {hash : TypeHash}
    (keyed : s.key? .classType template explicit = some key)
    (returned : exec (instantiateClass template explicit) s = (.ok hash, s')) :
    hash = .ofTemplateInstance template key.arguments ∧
      (s'.registry.HoldsInstance hash template key.arguments ↔
        s.registry.type? hash = none ∨ s.registry.HoldsInstance hash template key.arguments) ∧
      (s'.registry.HoldsInstance hash template key.arguments → ∀ s₁, s'.Later .faithful s₁ →
        s₁.registry.HoldsInstance hash template key.arguments ∧
        ∀ explicit₁ key₁ s₂, s₁.key? .classType template explicit₁ = some key₁ →
          exec (instantiateClass template explicit₁) s₁ = (.ok hash, s₂) →
          (s₂.registry.HoldsInstance hash template key₁.arguments ↔
            key₁.arguments = key.arguments)) := by
  obtain ⟨sound, -⟩ := run.keeps (fresh.sound builtins)
  -- The request comes down to its key.
  obtain ⟨rfl, params, path, known, completed⟩ := Session.key?_eq_some_iff.1 keyed
  obtain ⟨t, found, interface⟩ := Option.map_eq_some_iff.1 known
  cases interface
  obtain ⟨own, faithful⟩ := sound.templates key.template t found
  have completedAs : completedFor s.registry key.template t explicit = .ok key.arguments :=
    completed
  obtain ⟨after, types, outcome⟩ := sound.instantiateOnce faithful key.arguments
  rw [exec_instantiateClass] at returned
  simp only [found, completedAs] at returned
  rw [own, returned] at after types outcome
  obtain ⟨identity, held⟩ := outcome hash rfl
  refine ⟨identity, held, fun heldNow s₁ later => ?_⟩
  -- Instances stay along the run and through the second request. Since an identity stands for one
  -- instance at most, the second request got its own exactly if it is the same one.
  obtain ⟨sound₁, kept₁⟩ := later.keeps after
  have held₁ := kept₁.instances _ _ _ heldNow
  refine ⟨held₁, fun explicit₁ key₁ s₂ _ returned₁ => ?_⟩
  obtain ⟨-, kept₂⟩ := Session.Keeps.instantiateClass key.template explicit₁ s₁ sound₁
  rw [returned₁] at kept₂
  have held₂ := kept₂.instances _ _ _ held₁
  constructor
  · exact fun other => held₂.arguments_eq other
  · intro same
    rw [same]
    exact held₂

/-! A class template without members, in a session with the built-in declarations. -/

def bareBox : ClassTemplate :=
  (ClassTemplate.declare "" "Box" (.host fun _ made => .ok made)).addParam "T" .type

def builtinSession : Session := { registry := Registry.withBuiltins }

def boxSession : Session :=
  { builtinSession with
    registry := (RegistryOp.registerClassTemplate bareBox).run builtinSession.registry }

theorem boxSession_later : builtinSession.Later .faithful boxSession := by
  have faithful : bareBox.backend.Faithful := by
    intro arguments made filled h
    cases h
    exact ⟨rfl, rfl, rfl⟩
  exact .single (.registry builtinSession (.registerClassTemplate bareBox) faithful)

theorem boxSession_template : boxSession.registry.classTemplate? bareBox.hash = some bareBox := by
  have accepted : (exec (Registry.registerClassTemplate bareBox)
      builtinSession.registry).1.toOption.isSome := by decide +kernel
  simp only [boxSession, RegistryOp.run]
  exact Registry.classTemplate?_of_accepted accepted

theorem boxSession_key :
    boxSession.key? .classType bareBox.hash [.ofHash FundamentalKind.int.hash] =
      some ⟨bareBox.hash, [.ofHash FundamentalKind.int.hash]⟩ := by
  refine Session.key?_eq_some_iff.2 ⟨rfl, bareBox.params, bareBox.path, ?_, ?_⟩
  · rw [Registry.interface?, boxSession_template]
    rfl
  · exact CompletionContext.complete_of_fills (.cons rfl .nil)

/-- The identity of `Box<int>` is free, so the request for it gets what it asks for. -/
theorem class_instance_held_iff_box :
    ∃ hash s', exec (instantiateClass bareBox.hash [.ofHash FundamentalKind.int.hash]) boxSession =
        (.ok hash, s') ∧ boxSession.registry.type? hash = none ∧
      s'.registry.HoldsInstance hash bareBox.hash [.ofHash FundamentalKind.int.hash] := by
  have fresh : builtinSession.IsFresh := by
    unfold builtinSession
    exact ⟨rfl, rfl, rfl, rfl⟩
  have builtins : builtinSession.registry = Registry.withBuiltins := by simp only [builtinSession]
  have accepted : (exec (instantiateClass bareBox.hash [.ofHash FundamentalKind.int.hash])
      boxSession).1.toOption.isSome := by decide +kernel
  have free : boxSession.registry.type? (.ofTemplateInstance bareBox.hash
      [.ofHash FundamentalKind.int.hash]) = none := by decide +kernel
  rcases ran : exec (instantiateClass bareBox.hash [.ofHash FundamentalKind.int.hash]) boxSession
    with ⟨e | hash, s'⟩
  · rw [ran] at accepted
    cases accepted
  · obtain ⟨rfl, held, -⟩ :=
      class_instance_held_iff fresh builtins boxSession_later boxSession_key ran
    exact ⟨_, s', rfl, free, held.2 (.inl free)⟩

/-- A pattern with concrete arguments has the identity of the instance. -/
def patternSession : Session :=
  { boxSession with
    registry := (RegistryOp.intern (.pattern (.of bareBox.hash
      [.ofHash FundamentalKind.int.hash]))).run boxSession.registry }

def bareGrid : ClassTemplate :=
  ((ClassTemplate.declare "" "Grid" (.host fun _ made => .ok made)).addParam "N" .integer).addParam
    "M" .integer

def gridSession : Session :=
  { builtinSession with
    registry := (RegistryOp.registerClassTemplate bareGrid).run builtinSession.registry }

/-- Where the pattern `Box<int>` was written before, the request for `Box<int>` succeeds and there
is no such class. And the requests for `Grid<0, 5>` and `Grid<72057594037927936, 5>` return one
identity, since the mixing of components loses the highest bits of the first. -/
theorem class_instance_not_held :
    builtinSession.Later .faithful patternSession ∧
      (exec (instantiateClass bareBox.hash [.ofHash FundamentalKind.int.hash])
        patternSession).1.toOption =
          some (.ofTemplateInstance bareBox.hash [.ofHash FundamentalKind.int.hash]) ∧
      (exec (instantiateClass bareBox.hash [.ofHash FundamentalKind.int.hash])
        patternSession).2.registry.class?
          (.ofTemplateInstance bareBox.hash [.ofHash FundamentalKind.int.hash]) = none ∧
      (exec (instantiateClass bareGrid.hash [.integer 0, .integer 5])
        gridSession).1.toOption.isSome ∧
      (exec (instantiateClass bareGrid.hash [.integer 72057594037927936, .integer 5])
        (exec (instantiateClass bareGrid.hash [.integer 0, .integer 5])
          gridSession).2).1.toOption =
        (exec (instantiateClass bareGrid.hash [.integer 0, .integer 5])
          gridSession).1.toOption := by
  refine ⟨boxSession_later.tail (.registry boxSession (.intern _) trivial), ?_⟩
  decide +kernel

end ScriptSemantics
