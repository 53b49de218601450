import ScriptSemantics.Proofs.Registry.Filing
import ScriptSemantics.Proofs.Session.ClassInstances
import ScriptSemantics.Proofs.Session.FailedInstances
import ScriptSemantics.Proofs.Template.ArgumentTexts

/-!
# Names of Class Instances

An instance is filed in the namespace of its template, under the name of the template with the
arguments. The name tells the arguments (`templateIdText_injective`), so it is the name of no other
instance of that template.

What a request does to the names of types is followed through its steps. Registering a function
binds no type, registering the class binds its own name, and undoing the class erases the same name.
So of all names in all namespaces a request touches one, that of the instance it is for
(`exec_instantiateClass_typeNames`).

The main statement is `instance_names_identify`.
-/

namespace ScriptSemantics

/-! ## What the host leaves alone -/

/-- The host leaves an instance under the name and in the namespace that it has. -/
def ClassBackend.KeepsPlace : ClassBackend → Prop
  | .elementList => True
  | .host fill => ∀ arguments made filled, fill arguments made = .ok filled →
      filled.decl.name = made.decl.name ∧ filled.decl.path = made.decl.path

theorem ClassTemplate.filled_place {t : ClassTemplate} {arguments : List TemplateArgument}
    {made : ClassInstance} (keeps : t.backend.KeepsPlace) (filled : t.filled arguments = .ok made) :
    made.decl.name = t.instanceName arguments ∧ made.decl.path = t.path := by
  unfold ClassTemplate.filled at filled
  cases backend : t.backend with
  | elementList =>
    rw [backend] at filled
    rw [fillElementList_eq filled]
    exact ⟨rfl, rfl⟩
  | host fill =>
    rw [backend] at filled keeps
    exact keeps _ _ _ filled

namespace Registry

/-! ## Names of types -/

theorem typeIn?_eq_namesAt (r : Registry) (node : Nat) (name : String) :
    r.typeIn? node name = (r.namespaces.namesAt node).types.get? name := by
  rw [typeIn?, NamespaceTree.namesAt]
  cases r.namespaces.names? node <;> rfl

/-- Paths lead where they led, and in every namespace the names of types are what they were, up to
some. -/
structure KeepsTypeNames (touched : String → Prop) (r r' : Registry) : Prop where
  paths : r.namespaces.places <+: r'.namespaces.places
  names : ∀ node name, ¬touched name → r'.typeIn? node name = r.typeIn? node name

namespace KeepsTypeNames

variable {touched : String → Prop} {r r' r'' : Registry}

theorem of_namespaces (same : r'.namespaces = r.namespaces) : KeepsTypeNames touched r r' where
  paths := by rw [same]
  names node name _ := by rw [typeIn?, typeIn?, same]

theorem refl (r : Registry) : KeepsTypeNames touched r r := of_namespaces rfl

theorem trans (first : KeepsTypeNames touched r r') (second : KeepsTypeNames touched r' r'') :
    KeepsTypeNames touched r r'' where
  paths := first.paths.trans second.paths
  names node name other := (second.names node name other).trans (first.names node name other)

theorem mono {wider : String → Prop} (keeps : KeepsTypeNames touched r r')
    (wide : ∀ name, touched name → wider name) : KeepsTypeNames wider r r' where
  paths := keeps.paths
  names node name other := keeps.names node name fun h => other (wide name h)

theorem modifyNames (node : Nat) (change : NamespaceNames → NamespaceNames)
    (silent : ∀ names name, ¬touched name → (change names).types.get? name = names.types.get? name)
    (namespaces : r'.namespaces = r.namespaces.modifyNames node change) :
    KeepsTypeNames touched r r' where
  paths := by rw [namespaces, NamespaceTree.places_modifyNames]
  names other name untouched := by
    rw [typeIn?, typeIn?, namespaces, NamespaceTree.names?_modifyNames]
    split
    · cases r.namespaces.names? other with
      | none => rfl
      | some names => exact silent names name untouched
    · rfl

theorem file (r : Registry) (path : String) (change : NamespaceNames → NamespaceNames)
    (silent : ∀ names name, ¬touched name →
      (change names).types.get? name = names.types.get? name) :
    KeepsTypeNames touched r (r.file path change) := by
  -- Missing namespaces are created first. They are empty, so no name is bound by that.
  have created : KeepsTypeNames touched r
      { r with namespaces := (r.namespaces.getOrCreatePath path).2 } :=
    { paths := (r.namespaces.getOrCreateFrom_spec _ _).1
      names := fun node name _ => by
        rw [typeIn?_eq_namesAt, NamespaceTree.namesAt_getOrCreatePath, typeIn?_eq_namesAt] }
  exact created.trans (modifyNames (r.namespaces.getOrCreatePath path).1 change silent rfl)

theorem addClass (r : Registry) (c : ClassDecl) :
    KeepsTypeNames (· = c.name) r (r.addType (.classType c)) := by
  have filed : KeepsTypeNames (· = c.name) r (r.file c.path fun names =>
      { names with types := names.types.insert c.name c.hash }) := by
    refine file r c.path _ fun names name other => ?_
    rw [Table.get?_insert, if_neg other]
  exact ⟨filed.paths, filed.names⟩

/-- Functions are no types. -/
theorem registerFunction (r : Registry) (f : FunctionDecl) :
    KeepsTypeNames touched r (exec (registerFunction f) r).2 := by
  rw [exec_registerFunction]
  split
  · exact refl r
  · cases f.owner with
    | none =>
      have filed : KeepsTypeNames touched r (r.fileUnowned f) := by
        unfold fileUnowned
        split
        · split <;> exact of_namespaces rfl
        · refine file r f.path _ fun names name _ => ?_
          unfold fileFree
          split <;> rfl
      exact filed.trans (of_namespaces rfl)
    | some owner =>
      simp only []
      split
      · exact refl r
      · exact of_namespaces rfl

end KeepsTypeNames

/-! ## Classes under construction -/

/-- The class of this identity is filed under a name in the namespace of a path. -/
def HasClassAt (r : Registry) (hash : TypeHash) (path name : String) : Prop :=
  ∃ c, r.class? hash = some c ∧ c.path = path ∧ c.name = name

variable {r : Registry} {hash : TypeHash} {path name : String}

theorem HasClassAt.registerFunction (present : r.HasClassAt hash path name) (f : FunctionDecl) :
    (exec (registerFunction f) r).2.HasClassAt hash path name := by
  rw [exec_registerFunction]
  split
  · exact present
  · cases f.owner with
    | none =>
      -- Filing a free function leaves the types alone.
      have types : ((r.fileUnowned f).addFunction f).class? hash = r.class? hash := by
        unfold fileUnowned
        split
        · split <;> rfl
        · rfl
      obtain ⟨c, found, path, name⟩ := present
      exact ⟨c, types.trans found, path, name⟩
    | some owner =>
      simp only []
      split
      · exact present
      · obtain ⟨c, found, rfl, rfl⟩ := present
        have after : ((r.modifyClass owner (fileMember f)).addFunction f).class? hash =
            if hash = owner then some (fileMember f c) else some c := by
          show (r.modifyClass owner (fileMember f)).class? hash = _
          rw [class?_modifyClass, found]
          rfl
        split at after
        · exact ⟨_, after, (fileMember_place f c).1, (fileMember_place f c).2⟩
        · exact ⟨c, after, rfl, rfl⟩

/-- Where the class is taken out, its name goes and no other does. -/
theorem HasClassAt.removeType (present : r.HasClassAt hash path name) :
    KeepsTypeNames (· = name) r (r.removeType hash).2 := by
  obtain ⟨c, found, rfl, rfl⟩ := present
  rw [removeType_classType (class?_eq_some_iff.mp found)]
  cases here : r.namespaces.getPath? c.path with
  | none =>
    refine .of_namespaces ?_
    simp only [unfiled, here]
  | some node =>
    refine .modifyNames node (eraseTypeName c.name) (fun names name other => ?_) ?_
    · rw [eraseTypeName, Table.get?_erase, if_neg other]
    · simp only [unfiled, here]
      rfl

/-- There is a root namespace. -/
def Rooted (r : Registry) : Prop := NamespaceTree.root < r.namespaces.nodes.length

instance (r : Registry) : Decidable r.Rooted := inferInstanceAs (Decidable (_ < _))

/-- In the namespace of a path, the name stands for this type. -/
def NamesType (r : Registry) (path name : String) (hash : TypeHash) : Prop :=
  ∃ node, r.namespaces.getPath? path = some node ∧ r.typeIn? node name = some hash

/-- The name of a class is filed in its namespace, provided there is a root to put that under. -/
theorem namesType_addType (rooted : r.Rooted) (c : ClassDecl) :
    (r.addType (.classType c)).NamesType c.path c.name c.hash := by
  have found := NamespaceTree.getPath?_getOrCreatePath r.namespaces c.path
  have filed : (r.addType (.classType c)).namespaces =
      (r.namespaces.getOrCreatePath c.path).2.modifyNames (r.namespaces.getOrCreatePath c.path).1
        fun names => { names with types := names.types.insert c.name c.hash } := rfl
  have longer := NamespaceTree.nodes_prefix_getOrCreateFrom r.namespaces NamespaceTree.root
    (Path.segments c.path)
  have inside : (r.namespaces.getOrCreatePath c.path).1 <
      (r.namespaces.getOrCreatePath c.path).2.nodes.length :=
    NamespaceTree.lt_length_of_walk? (Nat.lt_of_lt_of_le rooted longer.length_le) found
  refine ⟨(r.namespaces.getOrCreatePath c.path).1, ?_, ?_⟩
  · rw [filed, NamespaceTree.getPath?_modifyNames, found]
  · rw [typeIn?, filed, NamespaceTree.names?_modifyNames, if_pos rfl, NamespaceTree.names?,
      List.getElem?_eq_getElem inside]
    simp only [Option.map_some, Option.bind_some, Table.get?_insert, if_true]

theorem NamesType.kept {r' : Registry} {touched : String → Prop}
    (named : r.NamesType path name hash) (keeps : KeepsTypeNames touched r r')
    (untouched : ¬touched name) : r'.NamesType path name hash := by
  obtain ⟨node, found, bound⟩ := named
  refine ⟨node, NamespaceTree.walk?_of_prefix keeps.paths found, ?_⟩
  rw [keeps.names node name untouched, bound]

end Registry

/-! ## Requests -/

/-- By induction on the members: each of them binds no type and leaves the class where it is, and
the first that is refused takes the class out. -/
theorem exec_registerMembers_typeNames {s : Session} {template hash : TypeHash} {path name : String}
    (present : s.registry.HasClassAt hash path name) (fs : List FunctionDecl) :
    (∃ r, exec (registerMembers template hash fs) s = (.ok ⟨⟩, { s with registry := r }) ∧
        Registry.KeepsTypeNames (fun _ => False) s.registry r) ∨
      ∃ e r, exec (registerMembers template hash fs) s = (.error e, { s with registry := r }) ∧
        Registry.KeepsTypeNames (· = name) s.registry r := by
  induction fs generalizing s with
  | nil => exact .inl ⟨s.registry, rfl, .refl _⟩
  | cons f fs ih =>
    have kept {touched : String → Prop} :
        Registry.KeepsTypeNames touched s.registry
          (exec (Registry.registerFunction f) s.registry).2 :=
      .registerFunction s.registry f
    have next := present.registerFunction f
    rw [registerMembers, exec_bind_ok (exec_attempt s _), exec_registering]
    rcases registered : exec (Registry.registerFunction f) s.registry with ⟨cause | _, r₁⟩
    · rw [registered] at kept next
      exact .inr ⟨_, _, rfl, kept.trans next.removeType⟩
    · rw [registered] at kept next
      rcases @ih { s with registry := r₁ } next with ⟨r, ran, rest⟩ | ⟨e, r, ran, rest⟩
      · exact .inl ⟨r, ran, kept.trans rest⟩
      · exact .inr ⟨e, r, ran, kept.trans rest⟩

theorem exec_registerInstance_typeNames {s s' : Session} {template : TypeHash}
    {made : ClassInstance} {outcome : Except TemplateError TypeHash}
    (ran : exec (registerInstance template made) s = (outcome, s')) :
    Registry.KeepsTypeNames (· = made.decl.name) s.registry s'.registry ∧
      (s.registry.Rooted → ∀ hash, outcome = .ok hash →
        s'.registry.NamesType made.decl.path made.decl.name hash) := by
  by_cases taken : (s.registry.type? made.decl.hash).isSome
  · obtain ⟨e, refused⟩ := exec_registerInstance_taken template taken
    rw [refused] at ran
    cases ran
    exact ⟨.refl _, fun _ hash h => by cases h⟩
  · rw [exec_registerInstance_free template (by simpa using taken)] at ran
    have entered := Registry.KeepsTypeNames.addClass s.registry made.decl
    have present : (s.registry.addType (.classType made.decl)).HasClassAt made.decl.hash
        made.decl.path made.decl.name := ⟨_, Registry.class?_addType _ _, rfl, rfl⟩
    rcases @exec_registerMembers_typeNames
        { s with registry := s.registry.addType (.classType made.decl) } template _ _ _ present
        made.functions with ⟨r, members, kept⟩ | ⟨e, r, members, kept⟩
    · rw [members] at ran
      cases ran
      refine ⟨entered.trans (kept.mono fun _ h => h.elim), ?_⟩
      rintro rooted hash ⟨⟩
      exact (Registry.namesType_addType rooted made.decl).kept kept not_false
    · rw [members] at ran
      cases ran
      exact ⟨entered.trans kept, fun _ hash h => by cases h⟩

/-- A build touches no name but that of its instance. Where the identity was free, success binds
that name to the identity it returns. -/
theorem exec_buildClass_typeNames {s s' : Session} {t : ClassTemplate}
    {arguments : List TemplateArgument} {outcome : Except TemplateError TypeHash}
    (keeps : t.backend.KeepsPlace) (ran : exec (buildClass t arguments) s = (outcome, s')) :
    Registry.KeepsTypeNames (· = t.instanceName arguments) s.registry s'.registry ∧
      (s.registry.Rooted → s.registry.type? (t.instanceDecl arguments).hash = none →
        ∀ hash, outcome = .ok hash →
          s'.registry.NamesType t.path (t.instanceName arguments) hash) := by
  have asked := t.asked_registry arguments s
  rw [exec_buildClass] at ran
  split at ran
  · rename_i taken
    cases ran
    refine ⟨.refl _, fun _ free => ?_⟩
    rw [free] at taken
    cases taken
  · cases filled : t.filled arguments with
    | error reason =>
      simp only [filled] at ran
      cases ran
      exact ⟨.of_namespaces (by rw [asked]), fun _ _ hash h => by cases h⟩
    | ok made =>
      simp only [filled] at ran
      obtain ⟨name, path⟩ := t.filled_place keeps filled
      obtain ⟨kept, named⟩ := exec_registerInstance_typeNames ran
      rw [asked, name] at kept
      rw [asked, name, path] at named
      exact ⟨kept, fun rooted _ => named rooted⟩

/-- A request touches no name but that of its instance. Where it builds the instance, success binds
that name to the identity it returns. -/
theorem exec_instantiateClass_typeNames {s s' : Session} {template : TypeHash} {t : ClassTemplate}
    {explicit arguments : List TemplateArgument} {outcome : Except TemplateError TypeHash}
    (keeps : t.backend.KeepsPlace) (known : s.registry.classTemplate? template = some t)
    (completed : completedFor s.registry template t explicit = .ok arguments)
    (ran : exec (instantiateClass template explicit) s = (outcome, s')) :
    Registry.KeepsTypeNames (· = t.instanceName arguments) s.registry s'.registry ∧
      (s.registry.Rooted → s.CanOpen .classType { template, arguments } →
        s.registry.type? (t.instanceDecl arguments).hash = none →
        ∀ hash, outcome = .ok hash →
          s'.registry.NamesType t.path (t.instanceName arguments) hash) := by
  rw [exec_instantiateClass] at ran
  simp only [known, completed] at ran
  rcases exec_instantiateOnce_cases s .classType ⟨template, arguments⟩ (buildClass t arguments) with
    ⟨hash, found, request⟩ | ⟨-, request⟩ | ⟨closed, e, request⟩ <;> rw [request] at ran
  · cases ran
    refine ⟨.refl _, fun _ canOpen => ?_⟩
    rw [canOpen.unbuilt] at found
    cases found
  · rcases built : exec (buildClass t arguments) (s.opened .classType ⟨template, arguments⟩)
      with ⟨outcome₁, s₁⟩
    rw [built] at ran
    cases ran
    obtain ⟨kept, named⟩ := exec_buildClass_typeNames keeps built
    rw [Session.registry_closed]
    exact ⟨kept, fun rooted _ => named rooted⟩
  · cases ran
    exact ⟨.refl _, fun _ canOpen => absurd canOpen closed⟩

/-! ## One name for each instance -/

/-- **Names of instances tell the arguments.** Instances of one template have the same name exactly
if they have the same arguments. Now let the host of the template keep the place of the classes it
fills in (`KeepsPlace`): it changes neither their name nor their namespace. Then a request that
builds an instance files it under that name in the namespace of the template; and whether it builds
one or not, succeeds or fails, what any namespace has under the name of an instance for other
arguments is not touched. -/
theorem instance_names_identify (t : ClassTemplate) :
    (∀ arguments other, t.instanceName arguments = t.instanceName other ↔ arguments = other) ∧
      (t.backend.KeepsPlace → ∀ (s s' : Session) (template : TypeHash)
        (explicit arguments : List TemplateArgument) (outcome : Except TemplateError TypeHash),
        s.registry.classTemplate? template = some t →
        completedFor s.registry template t explicit = .ok arguments →
        exec (instantiateClass template explicit) s = (outcome, s') →
          (s.registry.Rooted → ∀ made, s.StartsMembers template explicit t arguments made →
            ∀ hash, outcome = .ok hash →
              s'.registry.NamesType t.path (t.instanceName arguments) hash) ∧
          ∀ other, other ≠ arguments →
            (∀ node, s'.registry.typeIn? node (t.instanceName other) =
              s.registry.typeIn? node (t.instanceName other)) ∧
            ∀ path hash, s.registry.NamesType path (t.instanceName other) hash →
              s'.registry.NamesType path (t.instanceName other) hash) := by
  have identify (arguments other : List TemplateArgument) :
      t.instanceName arguments = t.instanceName other ↔ arguments = other :=
    (templateIdText_injective t.name).eq_iff
  refine ⟨identify, ?_⟩
  intro keeps s s' template explicit arguments outcome known completed ran
  obtain ⟨kept, named⟩ := exec_instantiateClass_typeNames keeps known completed ran
  refine ⟨fun rooted made starts => named rooted starts.canOpen starts.free, ?_⟩
  intro other different
  have untouched : ¬t.instanceName other = t.instanceName arguments :=
    fun same => different ((identify other arguments).mp same)
  exact ⟨fun node => kept.names node _ untouched, fun path hash known => known.kept kept untouched⟩

/-- A session with the instance `Box<const int&>`. -/
def constBoxSession : Session :=
  { boxSession with
    registry := boxSession.registry.addType (.classType
      (bareBox.instanceDecl [.type (.constRef FundamentalKind.int.hash)])) }

/-- The request for `Box<int>` files it beside `Box<const int&>`. -/
theorem instance_names_identify_box :
    ∃ hash s', exec (instantiateClass bareBox.hash [.ofHash FundamentalKind.int.hash])
        constBoxSession = (.ok hash, s') ∧
      s'.registry.NamesType "" "Box<int>" hash ∧
      s'.registry.NamesType "" "Box<const int&>"
        (bareBox.instanceDecl [.type (.constRef FundamentalKind.int.hash)]).hash := by
  have keeps : bareBox.backend.KeepsPlace := by
    intro arguments made filled h
    cases h
    exact ⟨rfl, rfl⟩
  have starts : constBoxSession.StartsMembers bareBox.hash
      [.ofHash FundamentalKind.int.hash] bareBox [.ofHash FundamentalKind.int.hash]
      { decl := bareBox.instanceDecl [.ofHash FundamentalKind.int.hash] } :=
    { known := by
        -- Entering a class leaves the templates alone.
        have templates (r : Registry) (c : ClassDecl) :
            (r.addType (.classType c)).classTemplate? bareBox.hash =
              r.classTemplate? bareBox.hash := rfl
        simp only [constBoxSession, templates, boxSession_template]
      completed := CompletionContext.complete_of_fills (.cons rfl .nil)
      canOpen := ⟨rfl, rfl, by decide⟩
      free := by decide +kernel
      filled := rfl }
  have accepted : (exec (instantiateClass bareBox.hash [.ofHash FundamentalKind.int.hash])
      constBoxSession).1.toOption.isSome := by decide +kernel
  have first : constBoxSession.registry.NamesType "" "Box<const int&>"
      (bareBox.instanceDecl [.type (.constRef FundamentalKind.int.hash)]).hash :=
    Registry.namesType_addType (by decide +kernel) _
  rcases ran : exec (instantiateClass bareBox.hash [.ofHash FundamentalKind.int.hash])
    constBoxSession with ⟨e | hash, s'⟩
  · rw [ran] at accepted
    cases accepted
  · obtain ⟨named, others⟩ := (instance_names_identify bareBox).2 keeps _ _ _ _ _ _ starts.known
      starts.completed ran
    refine ⟨hash, s', rfl, named (by decide +kernel) _ starts hash rfl, ?_⟩
    exact (others [.type (.constRef FundamentalKind.int.hash)] (by decide)).2 _ _ first

end ScriptSemantics
