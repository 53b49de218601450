import Mathlib.Logic.Relation
import ScriptSemantics.Proofs.Execution
import ScriptSemantics.Registry.Builtins

/-!
# What Happens to a Registry

Every action on a registry is put together from elementary changes: a table of names or variables is
replaced, functions go or enter under their identity, a type or template enters under a free
identity, a class gains members, a template changes its host, a type is taken out. `Registry.Change`
lists them, and each registering action is shown to be a sequence of them. What a registry keeps
over time is then read off the list, once for each elementary change.

Two things depend on who is at work: which hosts class templates may have, and whether types are
taken out at all. `Permits` says so.
-/

namespace ScriptSemantics

/-- What may happen to a registry besides new declarations. -/
structure Permits where
  /-- Hosts that class templates may have. -/
  backend : ClassBackend → Prop
  /-- Whether types may be taken out. -/
  removal : Prop

/-- Anything may happen. -/
def Permits.all : Permits where
  backend _ := True
  removal := True

namespace Registry

variable {permits : Permits}

/-! ## Elementary changes -/

/-- One elementary change. -/
inductive Change (permits : Permits) : Registry → Registry → Prop
  | names (r : Registry) (namespaces : NamespaceTree) :
      Change permits r { r with namespaces := namespaces }
  | functions (r : Registry) (functions : Table TypeHash FunctionDecl)
      (filed : ∀ hash f, functions.get? hash = some f → r.function? hash = some f ∨ f.hash = hash) :
      Change permits r { r with functions := functions }
  | globals (r : Registry) (globals : Table TypeHash GlobalDecl) :
      Change permits r { r with globals := globals }
  | operators (r : Registry) (operators : Table OperatorKind (List TypeHash)) :
      Change permits r { r with builtinOperators := operators }
  | type (r : Registry) (decl : TypeDecl) (free : r.type? decl.hash = none) :
      Change permits r { r with types := r.types.insert decl.hash decl }
  | members (r : Registry) (hash : TypeHash) (change : ClassDecl → ClassDecl)
      (keeps : ∀ c, (change c).template = c.template ∧ (change c).templateArgs = c.templateArgs) :
      Change permits r (r.modifyClass hash change)
  | removal (r : Registry) (hash : TypeHash) (allowed : permits.removal) :
      Change permits r { r with types := r.types.erase hash }
  | functionTemplate (r : Registry) (t : FunctionTemplate)
      (free : r.functionTemplate? t.hash = none) :
      Change permits r { r with functionTemplates := r.functionTemplates.insert t.hash t }
  | classTemplate (r : Registry) (t : ClassTemplate) (free : r.classTemplate? t.hash = none)
      (allowed : permits.backend t.backend) :
      Change permits r { r with classTemplates := r.classTemplates.insert t.hash t }
  | functionBackend (r : Registry) (hash : TypeHash) (backend : FunctionBackend) :
      Change permits r (r.setFunctionBackend hash backend)
  | classBackend (r : Registry) (hash : TypeHash) (backend : ClassBackend)
      (allowed : permits.backend backend) : Change permits r (r.setClassBackend hash backend)

/-- A sequence of elementary changes. -/
def Changes (permits : Permits) : Registry → Registry → Prop :=
  Relation.ReflTransGen (Change permits)

namespace Changes

theorem refl (r : Registry) : Changes permits r r := Relation.ReflTransGen.refl

theorem trans (a b c : Registry) (h : Changes permits a b) (h' : Changes permits b c) :
    Changes permits a c := Relation.ReflTransGen.trans h h'

theorem one {r r' : Registry} (h : Change permits r r') : Changes permits r r' :=
  Relation.ReflTransGen.single h

/-- A reflexive and transitive relation that contains the elementary changes contains every
sequence of them. -/
theorem lift {R : Registry → Registry → Prop} (refl : ∀ r, R r r)
    (trans : ∀ a b c, R a b → R b c → R a c) (step : ∀ r r', Change permits r r' → R r r')
    {r r' : Registry} (h : Changes permits r r') : R r r' := by
  induction h with
  | refl => exact refl r
  | tail _ last ih => exact trans _ _ _ ih (step _ _ last)

end Changes

/-! ## Types and functions -/

theorem changes_file (r : Registry) (path : String) (change : NamespaceNames → NamespaceNames) :
    Changes permits r (r.file path change) := .one (.names r _)

theorem fileType_types (r : Registry) (decl : TypeDecl) : (r.fileType decl).types = r.types := by
  cases decl <;> rfl

theorem changes_fileType (r : Registry) (decl : TypeDecl) :
    Changes permits r (r.fileType decl) := by
  cases decl with
  | classType c => exact changes_file r _ _
  | enumType e => exact changes_file r _ _
  | closure c => exact changes_file r _ _
  | fundamental _ => exact .refl r
  | functionType _ => exact .refl r
  | placeholder _ => exact .refl r
  | pattern _ => exact .refl r

theorem changes_addType (r : Registry) (decl : TypeDecl) (free : r.type? decl.hash = none) :
    Changes permits r (r.addType decl) := by
  -- The name is filed first, which leaves the identity free for the entry.
  have entered : Change permits (r.fileType decl) (r.addType decl) := by
    rw [addType, ← fileType_types r decl]
    refine .type _ decl ?_
    rw [type?, fileType_types]
    exact free
  exact .trans _ _ _ (changes_fileType r decl) (.one entered)

/-- A type is entered if its identity is free; otherwise nothing changes. -/
theorem exec_registerType (decl : TypeDecl) (r : Registry) :
    exec (registerType decl) r =
      match r.type? decl.hash with
      | none => (.ok decl.hash, r.addType decl)
      | some existing =>
        (if decl.isStructural && existing == decl then .ok decl.hash
          else .error (.duplicateType (decl.name?.getD "<anonymous>")), r) := by
  rw [registerType, exec_bind_ok (exec_get r)]
  cases r.type? decl.hash with
  | none => rfl
  | some existing =>
    simp only []
    split <;> rfl

theorem exec_registerType_free {decl : TypeDecl} {r : Registry} (free : r.type? decl.hash = none) :
    exec (registerType decl) r = (.ok decl.hash, r.addType decl) := by
  rw [exec_registerType, free]

theorem class?_addType (r : Registry) (c : ClassDecl) :
    (r.addType (.classType c)).class? c.hash = some c := by
  show ((r.types.insert c.hash (.classType c)).get? c.hash).bind TypeDecl.class? = some c
  rw [Table.get?_insert, if_pos rfl]
  rfl

theorem registerType_changes (decl : TypeDecl) :
    Respects (Changes permits) (registerType decl) := by
  intro r
  rw [exec_registerType]
  cases free : r.type? decl.hash with
  | none => exact changes_addType r decl free
  | some existing => exact .refl r

theorem intern_changes (r : Registry) (decl : TypeDecl) : Changes permits r (r.intern decl) := by
  unfold intern
  split
  · exact .refl r
  · rename_i free
    refine .one (.type r decl ?_)
    simpa [Table.contains, type?] using free

/-- The namespaces without the name of a type. -/
def unfiled (r : Registry) (path name : String) : NamespaceTree :=
  match r.namespaces.getPath? path with
  | some node => r.namespaces.modifyNames node fun names =>
      { names with types := names.types.erase name }
  | none => r.namespaces

/-- What is left after some functions went was there before. -/
theorem get?_of_foldl_erase {functions : Table TypeHash FunctionDecl} {hashes : List TypeHash}
    {hash : TypeHash} {f : FunctionDecl}
    (found : (hashes.foldl Table.erase functions).get? hash = some f) :
    functions.get? hash = some f := by
  induction hashes generalizing functions with
  | nil => exact found
  | cons gone hashes ih =>
    have left := ih found
    rw [Table.get?_erase] at left
    split at left
    · cases left
    · exact left

/-- A class goes with its name and with the members it lists. -/
theorem removeType_classType {r : Registry} {hash : TypeHash} {c : ClassDecl}
    (found : r.type? hash = some (.classType c)) :
    (r.removeType hash).2 =
      { r with
        types := r.types.erase hash
        namespaces := r.unfiled c.path c.name
        functions := (c.constructors ++ c.casts ++ c.methods).foldl Table.erase r.functions } := by
  simp only [removeType, found]
  rfl

theorem removeType_changes (allowed : permits.removal) (r : Registry) (hash : TypeHash) :
    Changes permits r (r.removeType hash).2 := by
  have out : Changes permits r { r with types := r.types.erase hash } :=
    .one (.removal r hash allowed)
  cases found : r.type? hash with
  | none =>
    simp only [removeType, found]
    exact .refl r
  | some decl =>
    cases decl with
    | classType c =>
      rw [removeType_classType found]
      refine .trans _ _ _ out (.trans _ _ _ (.one (.names _ (r.unfiled c.path c.name))) ?_)
      exact .one (.functions _ _ fun hash f found => .inl (get?_of_foldl_erase found))
    | fundamental _ | enumType _ | functionType _ | closure _ | placeholder _ | pattern _ =>
      simp only [removeType, found]
      exact out

/-- Enter a function whose identity is free. -/
def addFunction (r : Registry) (f : FunctionDecl) : Registry :=
  { r with functions := r.functions.insert f.hash f }

theorem changes_addFunction (r : Registry) (f : FunctionDecl) :
    Changes permits r (r.addFunction f) := by
  refine .one (.functions r _ fun hash g found => ?_)
  rw [Table.get?_insert] at found
  split at found
  · rename_i same
    cases found
    exact .inr same.symm
  · exact .inl found

/-- A function is entered if its identity is free and its owner, if it has one, is a class;
otherwise nothing changes. -/
theorem exec_registerFunction (f : FunctionDecl) (r : Registry) :
    exec (registerFunction f) r =
      if r.functions.contains f.hash then (.error (.duplicateFunction f.name), r)
      else
        match f.owner with
        | none => (.ok f.hash, (r.fileUnowned f).addFunction f)
        | some owner =>
          if (r.class? owner).isNone then (.error (.invalidOwner f.name owner), r)
          else (.ok f.hash, (r.modifyClass owner (fileMember f)).addFunction f) := by
  rw [registerFunction, exec_bind_ok (exec_get r)]
  by_cases taken : r.functions.contains f.hash
  · simp only [taken, if_true]
    rfl
  · simp only [taken]
    cases f.owner with
    | none => rfl
    | some owner =>
      by_cases missing : (r.class? owner).isNone
      · simp only [missing, if_true]
        rfl
      · simp only [missing]
        rfl

/-- Members are filed without touching what a class is an instance of. -/
theorem fileMember_keeps (f : FunctionDecl) (c : ClassDecl) :
    (fileMember f c).template = c.template ∧ (fileMember f c).templateArgs = c.templateArgs := by
  unfold fileMember
  split <;> exact ⟨rfl, rfl⟩

theorem changes_fileUnowned (r : Registry) (f : FunctionDecl) :
    Changes permits r (r.fileUnowned f) := by
  unfold fileUnowned
  split
  · split
    · exact .one (.operators r _)
    · exact .refl r
  · exact changes_file r _ _

theorem registerFunction_changes (f : FunctionDecl) :
    Respects (Changes permits) (registerFunction f) := by
  intro r
  rw [exec_registerFunction]
  split
  · exact .refl r
  · cases f.owner with
    | none => exact .trans _ _ _ (changes_fileUnowned r f) (changes_addFunction _ f)
    | some owner =>
      simp only []
      split
      · exact .refl r
      · refine .trans _ _ _ (.one (.members r owner (fileMember f) ?_)) (changes_addFunction _ f)
        exact fileMember_keeps f

theorem updateFunction_changes (f : FunctionDecl) :
    Respects (Changes permits) (updateFunction f) := by
  intro r
  rw [updateFunction, exec_bind_ok (exec_get r)]
  by_cases known : r.functions.contains f.hash
  · simp only [known]
    exact changes_addFunction r f
  · simp only [known]
    exact .refl r

theorem removeFunction_changes (r : Registry) (hash : TypeHash) :
    Changes permits r (r.removeFunction hash).2 :=
  .one (.functions r _ fun _ _ found => .inl (@get?_of_foldl_erase _ [hash] _ _ found))

/-! ## Templates and variables -/

/-- Both registries hold the same templates. -/
def SameTemplates (r r' : Registry) : Prop :=
  r'.functionTemplates = r.functionTemplates ∧ r'.classTemplates = r.classTemplates

theorem registerType_sameTemplates (decl : TypeDecl) :
    Respects SameTemplates (registerType decl) := by
  intro r
  rw [exec_registerType]
  cases r.type? decl.hash with
  | none => cases decl <;> exact ⟨rfl, rfl⟩
  | some existing => exact ⟨rfl, rfl⟩

/-- Placeholders are registered one by one, so they respect what registering one of them does. -/
theorem registerPlaceholders_respects {R : Registry → Registry → Prop} (refl : ∀ r, R r r)
    (trans : ∀ a b c, R a b → R b c → R a c)
    (step : ∀ placeholder, Respects R (registerType (.placeholder placeholder)))
    (placeholders : List Placeholder) : Respects R (registerPlaceholders placeholders) := by
  induction placeholders with
  | nil => exact .pure refl _
  | cons placeholder placeholders ih => exact .bind trans (.discard (step _)) fun _ => ih

theorem registerPlaceholders_changes (placeholders : List Placeholder) :
    Respects (Changes permits) (registerPlaceholders placeholders) :=
  registerPlaceholders_respects .refl .trans (fun _ => registerType_changes _) placeholders

theorem registerPlaceholders_sameTemplates (placeholders : List Placeholder) :
    Respects SameTemplates (registerPlaceholders placeholders) :=
  registerPlaceholders_respects (fun _ => ⟨rfl, rfl⟩)
    (fun _ _ _ h h' => ⟨h'.1.trans h.1, h'.2.trans h.2⟩) (fun _ => registerType_sameTemplates _)
    placeholders

/-- What follows the placeholders of a template starts from a registry with the same templates. -/
theorem changes_after_placeholders {α : Type} (placeholders : List Placeholder)
    {next : PUnit → RegistryM α} {r : Registry}
    (h : ∀ r₁, SameTemplates r r₁ → Changes permits r₁ (exec (next ⟨⟩) r₁).2) :
    Changes permits r (exec (registerPlaceholders placeholders >>= next) r).2 := by
  rw [exec_bind]
  have placed : Changes permits r _ := registerPlaceholders_changes placeholders r
  have same := registerPlaceholders_sameTemplates placeholders r
  rcases ran : exec (registerPlaceholders placeholders) r with ⟨e | _, r₁⟩
  · rw [ran] at placed
    exact placed
  · rw [ran] at placed same
    exact .trans _ _ _ placed (h r₁ same)

theorem registerFunctionTemplate_changes (t : FunctionTemplate) :
    Respects (Changes permits) (registerFunctionTemplate t) := by
  intro r
  rw [registerFunctionTemplate, exec_bind_ok (exec_get r)]
  cases free : r.functionTemplate? t.hash with
  | some existing => exact .refl r
  | none =>
    refine changes_after_placeholders t.placeholders fun r₁ same => ?_
    -- Placeholders are types, so the identity of the template is as free as before them.
    have free₁ : r₁.functionTemplate? t.hash = none := by
      rw [functionTemplate?, same.1]
      exact free
    rw [exec_bind_ok (exec_get r₁)]
    cases t.owner with
    | none => exact .trans _ _ _ (changes_file r₁ t.path _) (.one (.functionTemplate _ t free₁))
    | some owner =>
      by_cases missing : (r₁.class? owner).isNone
      · -- Without an owner the template is refused, but its placeholders stay.
        simp only [missing]
        exact .refl r₁
      · simp only [missing]
        refine .trans _ _ _ (.one (.members r₁ owner _ ?_)) (.one (.functionTemplate _ t free₁))
        exact fun _ => ⟨rfl, rfl⟩

theorem registerClassTemplate_changes (t : ClassTemplate) (allowed : permits.backend t.backend) :
    Respects (Changes permits) (registerClassTemplate t) := by
  intro r
  rw [registerClassTemplate, exec_bind_ok (exec_get r)]
  cases free : r.classTemplate? t.hash with
  | some existing => exact .refl r
  | none =>
    refine changes_after_placeholders t.placeholders fun r₁ same => ?_
    have free₁ : r₁.classTemplate? t.hash = none := by
      rw [classTemplate?, same.2]
      exact free
    rw [exec_bind_ok (exec_get r₁)]
    exact .trans _ _ _ (changes_file r₁ t.path _) (.one (.classTemplate _ t free₁ allowed))

/-- A class template that was accepted is found under its identity. -/
theorem classTemplate?_of_accepted {t : ClassTemplate} {r : Registry}
    (accepted : (exec (registerClassTemplate t) r).1.toOption.isSome) :
    (exec (registerClassTemplate t) r).2.classTemplate? t.hash = some t := by
  rcases ran : exec (registerClassTemplate t) r with ⟨e | hash, r'⟩
  · rw [ran] at accepted
    cases accepted
  · rw [registerClassTemplate, exec_bind_ok (exec_get r)] at ran
    cases known : r.classTemplate? t.hash with
    | some existing =>
      simp only [known] at ran
      cases ran
    | none =>
      simp only [known] at ran
      obtain ⟨_, r₁, -, rest⟩ := exec_bind_eq_ok ran
      rw [exec_bind_ok (exec_get r₁)] at rest
      cases rest
      show (r₁.classTemplates.insert t.hash t).get? t.hash = some t
      rw [Table.get?_insert, if_pos rfl]

theorem registerGlobal_changes (g : GlobalDecl) :
    Respects (Changes permits) (registerGlobal g) := by
  intro r
  rw [registerGlobal, exec_bind_ok (exec_get r)]
  cases r.global? g.hash with
  | some existing => exact .refl r
  | none => exact .trans _ _ _ (changes_file r g.path _) (.one (.globals _ _))

theorem addUsing_changes (source target : String) :
    Respects (Changes permits) (addUsing source target) := by
  intro r
  rw [addUsing, exec_bind_ok (exec_get r)]
  cases r.namespaces.getPath? target with
  | none => exact .refl r
  | some node => exact .one (.names r _)

/-! ## The initial registry -/

theorem forM_respects {σ ε α : Type} {R : σ → σ → Prop} (refl : ∀ s, R s s)
    (trans : ∀ a b c, R a b → R b c → R a c) {action : α → ExceptT ε (StateM σ) PUnit}
    (step : ∀ a, Respects R (action a)) (as : List α) : Respects R (as.forM action) := by
  induction as with
  | nil => exact .pure refl _
  | cons a as ih => exact .bind trans (step a) fun _ => ih

/-- The built-in declarations are the result of registering them, if the host of the list template
is permitted. -/
theorem withBuiltins_changes (allowed : permits.backend .elementList) :
    Changes permits {} withBuiltins := by
  -- Fundamental types, then the list template, then the built-in operators.
  have installed : Respects (Changes permits) install := by
    refine .bind .trans (forM_respects .refl .trans (fun kind => ?_) _) fun _ => ?_
    · exact .discard (registerType_changes _)
    refine .bind .trans (.discard (registerClassTemplate_changes _ allowed)) fun _ => ?_
    exact forM_respects .refl .trans (fun f => .discard (registerFunction_changes f)) _
  exact installed {}

/-! ## What is kept -/

/-- Parameters and namespace of a template, which the completion of its arguments depends on. -/
def interface? (r : Registry) : InstanceKind → TypeHash → Option (List TemplateParameter × String)
  | .function, hash => (r.functionTemplate? hash).map fun t => (t.params, t.path)
  | .classType, hash => (r.classTemplate? hash).map fun t => (t.params, t.path)

/-- Templates stay, and only their hosts are replaced. -/
theorem Change.interface? {r r' : Registry} (h : Change permits r r') {kind : InstanceKind}
    {template : TypeHash} {interface : List TemplateParameter × String}
    (found : r.interface? kind template = some interface) :
    r'.interface? kind template = some interface := by
  -- By the kind of change. New templates enter under free identities only, and a change of host
  -- keeps the interface.
  cases h with
  | names | functions | globals | operators | type | members | removal => exact found
  | functionTemplate t free =>
    cases kind with
    | classType => exact found
    | function =>
      have other : template ≠ t.hash := by
        rintro rfl
        simp [Registry.interface?, free] at found
      rw [← found]
      simp only [Registry.interface?, functionTemplate?, Table.get?_insert, if_neg other]
  | classTemplate t free =>
    cases kind with
    | function => exact found
    | classType =>
      have other : template ≠ t.hash := by
        rintro rfl
        simp [Registry.interface?, free] at found
      rw [← found]
      simp only [Registry.interface?, classTemplate?, Table.get?_insert, if_neg other]
  | functionBackend hash backend =>
    cases kind with
    | classType => exact found
    | function =>
      rw [← found]
      simp only [Registry.interface?, functionTemplate?, setFunctionBackend, Table.get?_modify]
      split <;> simp [Function.comp_def]
  | classBackend hash backend =>
    cases kind with
    | function => exact found
    | classType =>
      rw [← found]
      simp only [Registry.interface?, classTemplate?, setClassBackend, Table.get?_modify]
      split <;> simp [Function.comp_def]

theorem Changes.interface? {r r' : Registry} (h : Changes permits r r') {kind : InstanceKind}
    {template : TypeHash} {interface : List TemplateParameter × String}
    (found : r.interface? kind template = some interface) :
    r'.interface? kind template = some interface := by
  induction h with
  | refl => exact found
  | tail _ last ih => exact last.interface? ih

/-- The class under this identity is an instance of this template for these arguments. -/
def HoldsInstance (r : Registry) (hash template : TypeHash) (arguments : List TemplateArgument) :
    Prop :=
  ∃ c, r.class? hash = some c ∧ c.template = some template ∧ c.templateArgs = arguments

theorem HoldsInstance.taken {r : Registry} {hash template : TypeHash}
    {arguments : List TemplateArgument} (held : r.HoldsInstance hash template arguments) :
    (r.type? hash).isSome := by
  obtain ⟨c, found, -⟩ := held
  cases known : r.type? hash with
  | none => simp [class?, known] at found
  | some decl => rfl

/-- Every identity that was taken is taken still, and every instance is still one. -/
structure KeepsTypes (r r' : Registry) : Prop where
  taken : ∀ hash, (r.type? hash).isSome → (r'.type? hash).isSome
  instances : ∀ hash template arguments, r.HoldsInstance hash template arguments →
    r'.HoldsInstance hash template arguments

theorem KeepsTypes.refl (r : Registry) : KeepsTypes r r :=
  ⟨fun _ h => h, fun _ _ _ h => h⟩

theorem KeepsTypes.trans (a b c : Registry) (h : KeepsTypes a b) (h' : KeepsTypes b c) :
    KeepsTypes a c :=
  ⟨fun hash taken => h'.taken hash (h.taken hash taken),
    fun _ _ _ held => h'.instances _ _ _ (h.instances _ _ _ held)⟩

theorem KeepsTypes.of_types_eq {r r' : Registry} (same : r'.types = r.types) : KeepsTypes r r' := by
  have types : r'.type? = r.type? := by
    funext hash
    rw [type?, type?, same]
  constructor
  · intro hash taken
    rwa [types]
  · rintro hash template arguments ⟨c, found, instanceOf⟩
    refine ⟨c, ?_, instanceOf⟩
    rwa [class?, types]

/-- A type that enters under a free identity displaces nothing. -/
theorem KeepsTypes.insert (r : Registry) (decl : TypeDecl) (free : r.type? decl.hash = none) :
    KeepsTypes r { r with types := r.types.insert decl.hash decl } := by
  have kept : ∀ hash, (r.type? hash).isSome →
      ({ r with types := r.types.insert decl.hash decl } : Registry).type? hash = r.type? hash := by
    intro hash taken
    have other : hash ≠ decl.hash := by
      rintro rfl
      simp [free] at taken
    simp only [type?, Table.get?_insert, if_neg other]
  constructor
  · intro hash taken
    rwa [kept hash taken]
  · intro hash template arguments held
    have taken := held.taken
    obtain ⟨c, found, instanceOf⟩ := held
    refine ⟨c, ?_, instanceOf⟩
    rwa [class?, kept hash taken]

/-- The class under an identity after the class of another, or of the same, has changed. -/
theorem class?_modifyClass (r : Registry) (hash : TypeHash) (change : ClassDecl → ClassDecl)
    (other : TypeHash) :
    (r.modifyClass hash change).class? other =
      if other = hash then (r.class? other).map change else r.class? other := by
  simp only [class?, type?, modifyClass, Table.get?_modify]
  split
  · cases r.types.get? other with
    | none => rfl
    | some decl => cases decl <;> rfl
  · rfl

theorem isSome_type?_modifyClass (r : Registry) (hash : TypeHash) (change : ClassDecl → ClassDecl)
    (other : TypeHash) :
    ((r.modifyClass hash change).type? other).isSome = (r.type? other).isSome := by
  simp only [type?, modifyClass, Table.get?_modify]
  split <;> simp

theorem KeepsTypes.modifyClass (r : Registry) (hash : TypeHash) (change : ClassDecl → ClassDecl)
    (keeps : ∀ c, (change c).template = c.template ∧ (change c).templateArgs = c.templateArgs) :
    KeepsTypes r (r.modifyClass hash change) := by
  constructor
  · intro other taken
    rwa [isSome_type?_modifyClass]
  · rintro other template arguments ⟨c, found, ofTemplate, ofArguments⟩
    by_cases same : other = hash
    · refine ⟨change c, ?_, ?_, ?_⟩
      · rw [class?_modifyClass, if_pos same, found]
        rfl
      · rw [(keeps c).1, ofTemplate]
      · rw [(keeps c).2, ofArguments]
    · refine ⟨c, ?_, ofTemplate, ofArguments⟩
      rw [class?_modifyClass, if_neg same, found]

/-- As long as no type is taken out, types and instances stay. -/
theorem Changes.keepsTypes (stays : ¬permits.removal) {r r' : Registry}
    (h : Changes permits r r') : KeepsTypes r r' := by
  refine h.lift KeepsTypes.refl KeepsTypes.trans fun a b step => ?_
  cases step with
  | type decl free => exact .insert a decl free
  | members hash change keeps => exact .modifyClass a hash change keeps
  | removal hash allowed => exact absurd allowed stays
  | names | functions | globals | operators | functionTemplate | classTemplate
  | functionBackend | classBackend => exact .of_types_eq rfl

/-- Class templates are found under their own identity, and their hosts are permitted. -/
def SoundTemplates (permits : Permits) (r : Registry) : Prop :=
  ∀ hash t, r.classTemplate? hash = some t → t.hash = hash ∧ permits.backend t.backend

theorem Changes.soundTemplates {r r' : Registry} (h : Changes permits r r')
    (sound : SoundTemplates permits r) : SoundTemplates permits r' := by
  refine h.lift (R := fun a b => SoundTemplates permits a → SoundTemplates permits b)
    (fun _ h => h) (fun _ _ _ h h' sound => h' (h sound)) ?_ sound
  intro a b step sound
  cases step with
  | names | functions | globals | operators | type | members | removal | functionTemplate
  | functionBackend => exact sound
  | classTemplate t free allowed =>
    intro hash found entry
    rw [classTemplate?, Table.get?_insert] at entry
    split at entry
    · rename_i same
      cases entry
      exact ⟨same.symm, allowed⟩
    · exact sound hash found entry
  | classBackend changed backend allowed =>
    intro hash found entry
    rw [classTemplate?, setClassBackend, Table.get?_modify] at entry
    split at entry
    · obtain ⟨t, known, rfl⟩ := Option.map_eq_some_iff.1 entry
      exact ⟨(sound hash t known).1, allowed⟩
    · exact sound hash found entry

/-- Functions are found under their own identity. -/
def SoundFunctions (r : Registry) : Prop :=
  ∀ hash f, r.function? hash = some f → f.hash = hash

theorem Changes.soundFunctions {r r' : Registry} (h : Changes permits r r')
    (sound : r.SoundFunctions) : r'.SoundFunctions := by
  induction h with
  | refl => exact sound
  | tail _ last ih =>
    cases last with
    | functions _ filed =>
      intro hash f found
      exact (filed hash f found).elim (ih hash f) id
    | names | globals | operators | type | members | removal | functionTemplate | classTemplate
    | functionBackend | classBackend => exact ih

theorem SoundFunctions.ofTypes (types : Table TypeHash TypeDecl) :
    ({ types } : Registry).SoundFunctions := fun _ _ found => nomatch found

theorem withBuiltins_soundFunctions : withBuiltins.SoundFunctions :=
  (@withBuiltins_changes .all trivial).soundFunctions (.ofTypes {})

theorem SoundFunctions.addFunction {r : Registry} (sound : r.SoundFunctions) (f : FunctionDecl) :
    (r.addFunction f).SoundFunctions := (@changes_addFunction .all r f).soundFunctions sound

theorem SoundFunctions.of_mem_registered {r : Registry} (sound : r.SoundFunctions)
    {hashes : List TypeHash} {f : FunctionDecl} (member : f ∈ r.registered hashes) :
    r.function? f.hash = some f := by
  obtain ⟨hash, -, found⟩ := List.mem_filterMap.mp member
  rwa [sound hash f found]

end Registry

end ScriptSemantics
