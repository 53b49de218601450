import ScriptSemantics.Proofs.Lookup.Shadowing
import ScriptSemantics.Proofs.Registry.Filing
import ScriptSemantics.Proofs.Session.Bracketing
import ScriptSemantics.Proofs.Session.ClassInstances
import ScriptSemantics.Proofs.Session.FailedInstances

/-!
# Declared Names

Whether a namespace has a name is decided in two places. The declaration test asks for a key in one
of the tables. Look-up asks for something to return: members of an overload set, the declaration of
a variable. The two would part at an overload set without members, or at a variable that is filed
but not registered.

1. Whatever a session does to its registry is a sequence of operations on registries
   (`Session.Later.registry_later`). So what every operation keeps holds along every run, also
   inside hosts and builders, and after a class instance was taken out again.
2. `Registry.Backed` says that nothing is filed in vain. Each way to file names keeps it, and so
   does each operation (`RegistryOp.run_backed`).
3. Look-up finds nothing exactly if no table has anything to return
   (`Registry.nameIn_eq_unknown_iff`), and a table that is backed has something for each key.

The main statement is `known_iff_declared`.
-/

namespace ScriptSemantics

/-! ## The registry of a session -/

/-- What a sequence of operations makes of a registry. -/
def Registry.Later : Registry → Registry → Prop :=
  Relation.ReflTransGen fun r r' => ∃ op : RegistryOp, op.run r = r'

theorem RegistryOp.run_later (op : RegistryOp) (r : Registry) : r.Later (op.run r) :=
  .single ⟨op, rfl⟩

/-- The built-in declarations are entered by operations. -/
theorem Registry.withBuiltins_later : Registry.Later {} withBuiltins := by
  have installed : Respects Registry.Later (RegistryOp.installation.forM RegistryOp.action) := by
    refine forM_respects (fun _ => .refl) (fun _ _ _ => .trans) (fun op r => ?_) _
    rw [RegistryOp.exec_action_snd]
    exact op.run_later r
  have left : (exec (RegistryOp.installation.forM RegistryOp.action) {}).2 = withBuiltins := by
    rw [RegistryOp.exec_installation]
  rw [← left]
  exact installed {}

theorem Session.registry_opened (s : Session) (kind : InstanceKind) (key : InstanceKey) :
    (s.opened kind key).registry = s.registry := by
  cases kind <;> rfl

namespace Point

theorem Step.registry_later {p q : Point} (step : Step p q) :
    p.session.registry.Later q.session.registry := by
  cases step with
  | registry underWay s op => exact op.run_later s.registry
  | record | compiler | limit => exact .refl
  | start underWay s c =>
    rw [Session.registry_opened]
    exact .refl
  | stop underWay s c outcome =>
    rw [Session.registry_closed]
    exact .refl

theorem Reaches.registry_later {p q : Point} (run : p.Reaches q) :
    p.session.registry.Later q.session.registry := by
  induction run with
  | refl => exact .refl
  | tail _ last ih => exact ih.trans last.registry_later

end Point

namespace Session

variable {permits : Permits} {s s' : Session}

theorem Runs.registry_later (runs : Runs s s') : s.registry.Later s'.registry :=
  (runs.path []).registry_later

theorem Move.registry_later (move : Move permits s s') : s.registry.Later s'.registry := by
  cases move with
  | registry op => exact op.run_later s.registry
  | compiler => exact .refl
  | operation op => exact (op.run_tracked Runs.tracks s).registry_later
  | @enterBody s₁ s₂ template t arguments f body opened registered =>
    -- The instance is opened first, which is not seen in the registry.
    obtain ⟨-, rfl⟩ := canOpen_of_exec_openInstance opened
    have signature := Runs.tracks.registerSignature t arguments
      (s.opened .function ⟨template, arguments⟩)
    rw [registered] at signature
    exact signature.registry_later
  | leaveBody key t f outcome =>
    -- The body is attached before the construction is closed.
    have attached := Runs.tracks.attachBody t f outcome s
    rw [exec_bind_ok (exec_attempt s _), closeInstance, exec_bind_ok (exec_modify _ _),
      exec_ofExcept, registry_closed]
    exact attached.registry_later

/-- A session works on its registry by operations on registries only. -/
theorem Later.registry_later (later : s.Later permits s') : s.registry.Later s'.registry := by
  induction later with
  | refl => exact .refl
  | tail _ last ih => exact ih.trans last.registry_later

end Session

/-! ## Nothing is filed in vain -/

theorem Table.push_ne_some_nil {κ β : Type} [DecidableEq κ] {table : Table κ (List β)} {key : κ}
    (backed : table.get? key ≠ some []) (other : κ) (value : β) :
    (table.push other value).get? key ≠ some [] := by
  rw [get?_push]
  split
  · simp
  · exact backed

namespace NamespaceNames

/-- Every overload set has members, and every variable is registered. -/
structure Backed (globals : Table TypeHash GlobalDecl) (names : NamespaceNames) : Prop where
  overloads : ∀ key, names.overloads? key ≠ some []
  registered : ∀ name hash, names.globals.get? name = some hash → globals.contains hash

variable {globals : Table TypeHash GlobalDecl} {names : NamespaceNames}

theorem backed_empty : Backed globals {} where
  overloads key := by cases key <;> simp [overloads?, Table.get?]
  registered _ _ found := by cases found

namespace Backed

/-- In the other tables a name is all there is to find. -/
theorem congr (backed : names.Backed globals) {names' : NamespaceNames}
    (overloads : names'.overloads? = names.overloads?) (filed : names'.globals = names.globals) :
    names'.Backed globals where
  overloads := by
    rw [overloads]
    exact backed.overloads
  registered := by
    rw [filed]
    exact backed.registered

theorem fileFree (backed : names.Backed globals) (f : FunctionDecl) :
    (Registry.fileFree f names).Backed globals := by
  unfold Registry.fileFree
  split
  · -- An operator is filed by its kind, next to the names.
    refine ⟨fun key => ?_, backed.registered⟩
    cases key with
    | operator op => exact Table.push_ne_some_nil (backed.overloads (.operator op)) _ _
    | function name => exact backed.overloads (.function name)
    | functionTemplate name => exact backed.overloads (.functionTemplate name)
  · exact backed
  · refine ⟨fun key => ?_, backed.registered⟩
    cases key with
    | function name => exact Table.push_ne_some_nil (backed.overloads (.function name)) _ _
    | functionTemplate name => exact backed.overloads (.functionTemplate name)
    | operator op => exact backed.overloads (.operator op)

theorem fileFunctionTemplate (backed : names.Backed globals) (t : FunctionTemplate) :
    (Registry.fileFunctionTemplate t names).Backed globals where
  overloads key := by
    cases key with
    | functionTemplate name =>
      exact Table.push_ne_some_nil (backed.overloads (.functionTemplate name)) _ _
    | function name => exact backed.overloads (.function name)
    | operator op => exact backed.overloads (.operator op)
  registered := backed.registered

/-- A variable is filed after it was registered. -/
theorem fileGlobal (backed : names.Backed globals) {g : GlobalDecl}
    (known : globals.contains g.hash) : (Registry.fileGlobal g names).Backed globals where
  overloads := backed.overloads
  registered name hash found := by
    rw [Registry.fileGlobal, Table.get?_insert] at found
    split at found
    · cases found
      exact known
    · exact backed.registered name hash found

/-- Variables that are registered stay so. -/
theorem enterGlobal (backed : names.Backed globals) (g : GlobalDecl) :
    names.Backed (globals.insert g.hash g) where
  overloads := backed.overloads
  registered name hash found := by
    have known := backed.registered name hash found
    rw [Table.contains, Table.get?_insert]
    split
    · rfl
    · exact known

/-- There is nothing in an overload set only if there is no such set. -/
theorem getD_overloads?_eq_nil_iff (backed : names.Backed globals) (key : OverloadName) :
    (names.overloads? key).getD [] = [] ↔ names.overloads? key = none := by
  have inhabited := backed.overloads key
  cases found : names.overloads? key with
  | none => simp
  | some set =>
    rw [found] at inhabited
    simpa using inhabited

/-- No variable is found only if none is filed. -/
theorem bind_globals_eq_none_iff (backed : names.Backed globals) (name : String) :
    (names.globals.get? name).bind globals.get? = none ↔ names.globals.get? name = none := by
  cases filed : names.globals.get? name with
  | none => simp
  | some hash =>
    have known := backed.registered name hash filed
    simpa [Table.contains, Option.isSome_iff_ne_none] using known

end Backed

end NamespaceNames

namespace Registry

/-- The namespaces form a tree, and nothing is filed in them in vain. -/
structure Backed (r : Registry) : Prop where
  tree : r.namespaces.WellFormed
  names : ∀ node, (r.namespaces.namesAt node).Backed r.globals

theorem backed_empty : ({} : Registry).Backed where
  tree := .new
  names node := by
    have nameless : ({} : Registry).namespaces.namesAt node = {} := by
      cases node <;> rfl
    rw [nameless]
    exact NamespaceNames.backed_empty

namespace Backed

variable {r r' : Registry}

/-- Only namespaces and variables count. -/
theorem congr (backed : r.Backed) (namespaces : r'.namespaces = r.namespaces)
    (globals : r'.globals = r.globals) : r'.Backed where
  tree := by
    rw [namespaces]
    exact backed.tree
  names node := by
    rw [namespaces, globals]
    exact backed.names node

theorem file (backed : r.Backed) (path : String) {change : NamespaceNames → NamespaceNames}
    (keeps : ∀ names, names.Backed r.globals → (change names).Backed r.globals) :
    (r.file path change).Backed where
  tree := (keepsPaths_file r path change).wellFormed backed.tree
  names node := by
    rw [namesAt_file backed.tree]
    split
    · exact keeps _ (backed.names node)
    · exact backed.names node

/-! ## One operation -/

theorem fileType (backed : r.Backed) (decl : TypeDecl) : (r.fileType decl).Backed := by
  cases decl with
  | classType | enumType | closure => exact backed.file _ fun _ kept => kept.congr rfl rfl
  | fundamental | functionType | placeholder | pattern => exact backed

theorem registerType (backed : r.Backed) (decl : TypeDecl) :
    (exec (registerType decl) r).2.Backed := by
  rw [exec_registerType]
  cases r.type? decl.hash with
  | none => exact (backed.fileType decl).congr rfl (by cases decl <;> rfl)
  | some existing => exact backed

theorem fileUnowned (backed : r.Backed) (f : FunctionDecl) : (r.fileUnowned f).Backed := by
  unfold Registry.fileUnowned
  split
  · split
    · exact backed.congr rfl rfl
    · exact backed
  · exact backed.file f.path fun _ kept => kept.fileFree f

theorem registerFunction (backed : r.Backed) (f : FunctionDecl) :
    (exec (registerFunction f) r).2.Backed := by
  rw [exec_registerFunction]
  split
  · exact backed
  · cases f.owner with
    | none => exact (backed.fileUnowned f).congr rfl rfl
    | some owner =>
      simp only []
      split
      · exact backed
      · -- A member is filed in its class.
        exact backed.congr rfl rfl

/-- Placeholders have no names, however many of them enter. -/
theorem registerPlaceholders (backed : r.Backed) {ps : List Placeholder}
    {outcome : Except RegistrationError PUnit}
    (ran : exec (registerPlaceholders ps) r = (outcome, r')) : r'.Backed := by
  have left := exec_registerPlaceholders_snd ps r
  rw [ran] at left
  obtain rfl : r' = r.withPlaceholders (r.entering ps) := left
  exact backed.congr rfl rfl

theorem registerFunctionTemplate (backed : r.Backed) (t : FunctionTemplate) :
    (exec (registerFunctionTemplate t) r).2.Backed := by
  rw [exec_registerFunctionTemplate]
  split
  · exact backed
  · rcases ran : exec (Registry.registerPlaceholders t.placeholders) r with ⟨e | _, placed⟩
    · exact backed.registerPlaceholders ran
    · have start : placed.Backed := backed.registerPlaceholders ran
      cases t.owner with
      | none =>
        have filed : (placed.file t.path (Registry.fileFunctionTemplate t)).Backed :=
          start.file t.path fun _ kept => kept.fileFunctionTemplate t
        exact filed.congr rfl rfl
      | some owner =>
        simp only []
        split
        · -- The template is refused, but its placeholders stay.
          exact start
        · exact start.congr rfl rfl

theorem registerClassTemplate (backed : r.Backed) (t : ClassTemplate) :
    (exec (registerClassTemplate t) r).2.Backed := by
  rw [exec_registerClassTemplate]
  split
  · exact backed
  · rcases ran : exec (Registry.registerPlaceholders t.placeholders) r with ⟨e | _, placed⟩
    · exact backed.registerPlaceholders ran
    · have start : placed.Backed := backed.registerPlaceholders ran
      have filed : (placed.file t.path (Registry.fileClassTemplate t)).Backed :=
        start.file t.path fun _ kept => kept.congr rfl rfl
      exact filed.congr rfl rfl

theorem registerGlobal (backed : r.Backed) (g : GlobalDecl) :
    (exec (registerGlobal g) r).2.Backed := by
  rw [exec_registerGlobal]
  split
  · exact backed
  · -- Seen from the outside both happen at once, so the variable may be entered before its name.
    have entered : ({ r with globals := r.globals.insert g.hash g } : Registry).Backed :=
      ⟨backed.tree, fun node => (backed.names node).enterGlobal g⟩
    have known : (r.globals.insert g.hash g).contains g.hash := by
      rw [Table.contains, Table.get?_insert, if_pos rfl]
      rfl
    exact (entered.file g.path fun _ kept => kept.fileGlobal known).congr rfl rfl

theorem addUsing (backed : r.Backed) (source target : String) :
    (exec (addUsing source target) r).2.Backed := by
  rw [exec_addUsing]
  split
  · exact backed
  · refine ⟨?_, fun node => ?_⟩
    · exact (backed.tree.getOrCreatePath source).1.congr (NamespaceTree.places_addUsing _ _ _)
    · -- An import is no name, and the namespaces that are created have none.
      rw [NamespaceTree.namesAt, NamespaceTree.names?_addUsing, ← NamespaceTree.namesAt,
        NamespaceTree.namesAt_getOrCreatePath]
      exact backed.names node

/-- A class takes its name along. Enums and closures leave theirs, which are declared and found as
before. -/
theorem removeType (backed : r.Backed) (hash : TypeHash) : (r.removeType hash).2.Backed := by
  cases found : r.type? hash with
  | none =>
    simp only [Registry.removeType, found]
    exact backed
  | some decl =>
    cases decl with
    | classType c =>
      rw [removeType_classType found]
      cases here : r.namespaces.getPath? c.path with
      | none =>
        refine backed.congr ?_ rfl
        simp only [unfiled, here]
      | some node =>
        -- Where the path exists, taking the name out is filing without it.
        have erased : (r.file c.path (eraseTypeName c.name)).Backed :=
          backed.file c.path fun _ kept => kept.congr rfl rfl
        refine erased.congr ?_ rfl
        rw [file_namespaces, NamespaceTree.getOrCreatePath_of_getPath? here]
        simp only [unfiled, here]
        rfl
    | fundamental | enumType | functionType | closure | placeholder | pattern =>
      simp only [Registry.removeType, found]
      exact backed.congr rfl rfl

end Backed

end Registry

/-- No operation files anything in vain, whatever its outcome. -/
theorem RegistryOp.run_backed (op : RegistryOp) {r : Registry} (backed : r.Backed) :
    (op.run r).Backed := by
  cases op with
  | registerType decl => exact backed.registerType decl
  | intern decl =>
    simp only [run, Registry.intern]
    split
    · exact backed
    · exact backed.congr rfl rfl
  | removeType hash => exact backed.removeType hash
  | registerFunction f => exact backed.registerFunction f
  | updateFunction f =>
    rw [run, Registry.exec_updateFunction]
    split
    · exact backed.congr rfl rfl
    · exact backed
  | registerFunctionTemplate t => exact backed.registerFunctionTemplate t
  | registerClassTemplate t => exact backed.registerClassTemplate t
  | registerGlobal g => exact backed.registerGlobal g
  | addUsing source target => exact backed.addUsing source target
  | removeFunction | setFunctionBackend | setClassBackend => exact backed.congr rfl rfl

theorem Registry.Later.backed {r r' : Registry} (later : r.Later r') (backed : r.Backed) :
    r'.Backed := by
  induction later with
  | refl => exact backed
  | tail _ last ih =>
    obtain ⟨op, rfl⟩ := last
    exact op.run_backed ih

/-! ## The two tests -/

/-- A node that does not exist has no children. -/
theorem NamespaceTree.WellFormed.child?_of_missing {tree : NamespaceTree} (wf : tree.WellFormed)
    {node : Nat} (missing : tree.names? node = none) (name : String) :
    tree.child? node name = none := by
  cases found : tree.child? node name with
  | none => rfl
  | some child =>
    have place := place?_of_child? found
    have above := wf.earlier child node name place
    have inside := lt_length_of_place? place
    simp only [names?, Option.map_eq_none_iff, List.getElem?_eq_none_iff] at missing
    omega

theorem NamespaceNames.declares_eq_false_iff {names : NamespaceNames} {name : String} :
    names.declares name = false ↔
      names.types.get? name = none ∧ names.functions.get? name = none ∧
        names.functionTemplates.get? name = none ∧ names.classTemplates.get? name = none ∧
        names.globals.get? name = none ∧ names.enumValues.get? name = none := by
  simp [declares, Table.contains, and_assoc]

namespace Registry

variable {r : Registry} {node : Nat} {names : NamespaceNames} {name : String}

/-- In any registry, look-up finds nothing exactly if none of the tables has anything to return. -/
theorem nameIn_eq_unknown_iff :
    r.nameIn node names name = .unknown ↔
      names.types.get? name = none ∧ names.enumValues.get? name = none ∧
        r.namespaces.child? node name = none ∧ (names.functions.get? name).getD [] = [] ∧
        (names.functionTemplates.get? name).getD [] = [] ∧
        names.classTemplates.get? name = none ∧
        (names.globals.get? name).bind r.global? = none := by
  -- The tables are asked one after the other, and the first that answers ends the search.
  unfold nameIn
  cases names.types.get? name with
  | some hash => simp
  | none =>
    cases names.enumValues.get? name with
    | some entry => simp
    | none =>
      cases r.namespaces.child? node name with
      | some child => simp
      | none =>
        simp only [LookupResult.orElse_eq_unknown_iff, LookupResult.ofFunctions_eq_unknown_iff,
          and_assoc, true_and]
        cases names.classTemplates.get? name with
        | some hash => simp
        | none => cases (names.globals.get? name).bind r.global? <;> simp

theorem nameIn_eq_unknown_iff_of_backed (backed : names.Backed r.globals) :
    r.nameIn node names name = .unknown ↔
      names.declares name = false ∧ r.namespaces.child? node name = none := by
  have functions : (names.functions.get? name).getD [] = [] ↔ names.functions.get? name = none :=
    backed.getD_overloads?_eq_nil_iff (.function name)
  have templates : (names.functionTemplates.get? name).getD [] = [] ↔
      names.functionTemplates.get? name = none :=
    backed.getD_overloads?_eq_nil_iff (.functionTemplate name)
  have globals : (names.globals.get? name).bind r.global? = none ↔
      names.globals.get? name = none := backed.bind_globals_eq_none_iff name
  rw [nameIn_eq_unknown_iff, NamespaceNames.declares_eq_false_iff, functions, templates, globals]
  tauto

theorem Backed.inNamespace_eq_unknown_iff (backed : r.Backed) (node : Nat) (name : String) :
    r.inNamespace node name = .unknown ↔
      (r.namespaces.names? node).any (·.declares name) = false ∧
        r.namespaces.child? node name = none := by
  have here := backed.names node
  unfold inNamespace
  cases known : r.namespaces.names? node with
  | none => simp [backed.tree.child?_of_missing known]
  | some names =>
    rw [NamespaceTree.namesAt, known] at here
    exact nameIn_eq_unknown_iff_of_backed here

end Registry

/-- **Look-up and the declaration test agree.** Take any run of a session that starts with an empty
registry or with the built-in declarations: registrations, `using` directives, types and functions
taken out, class and function instances, those included that fail and are taken out again. At every
point of the run, in every namespace, a name is found if and only if the namespace declares it or
has a child of that name. -/
theorem known_iff_declared {s₀ s : Session}
    (start : s₀.registry = {} ∨ s₀.registry = Registry.withBuiltins) (run : s₀.Later .all s)
    (node : Nat) (name : String) :
    s.registry.inNamespace node name ≠ .unknown ↔
      (s.registry.namespaces.names? node).any (·.declares name) = true ∨
        (s.registry.namespaces.child? node name).isSome := by
  have initial : s₀.registry.Backed := by
    rcases start with empty | builtins
    · rw [empty]
      exact Registry.backed_empty
    · rw [builtins]
      exact Registry.withBuiltins_later.backed Registry.backed_empty
  have backed := run.registry_later.backed initial
  rw [ne_eq, backed.inNamespace_eq_unknown_iff, not_and_or, Bool.not_eq_false,
    Option.isSome_iff_ne_none]

/-! A namespace with a function and a variable. Outside of it stand the class template whose host
adds two methods of one name, and a class with the name of its instance for `int`. -/

def galleryOps : List RegistryOp :=
  [.registerFunction (.free "gfx" "draw" [] .void), .originIn "gfx", .registerType namesake,
    .registerClassTemplate twinBox]

def gallery : Session :=
  { builtinSession with registry := galleryOps.foldl RegistryOp.run builtinSession.registry }

/-- The session after the request for the instance. -/
def requestedGallery : Session :=
  SessionOp.run gallery (.instantiateClass twinBox.hash [.ofHash FundamentalKind.int.hash])

theorem Session.later_foldl (s : Session) (ops : List RegistryOp) :
    s.Later .all { s with registry := ops.foldl RegistryOp.run s.registry } := by
  induction ops generalizing s with
  | nil => exact .refl
  | cons op ops ih =>
    have permitted : op.Permitted .all := by cases op <;> exact trivial
    exact .head (.registry s op permitted) (ih { s with registry := op.run s.registry })

/-- The request fails and takes the name of the class along: it was declared and found before, and
is neither afterwards. The names in `gfx` and the namespace itself are found as before, and nothing
is found in a namespace that does not exist. -/
theorem known_iff_declared_gallery :
    gallery.registry.inNamespace NamespaceTree.root "Box<int>" ≠ .unknown ∧
      requestedGallery.registry.inNamespace NamespaceTree.root "Box<int>" = .unknown ∧
      requestedGallery.registry.inNamespace NamespaceTree.root "gfx" ≠ .unknown ∧
      requestedGallery.registry.inNamespace RegistryOp.gfx "draw" ≠ .unknown ∧
      requestedGallery.registry.inNamespace RegistryOp.gfx "origin" ≠ .unknown ∧
      requestedGallery.registry.inNamespace 2 "origin" = .unknown := by
  have start : builtinSession.registry = {} ∨ builtinSession.registry = Registry.withBuiltins :=
    .inr (by simp only [builtinSession])
  have built : builtinSession.Later .all gallery := builtinSession.later_foldl galleryOps
  have requested : builtinSession.Later .all requestedGallery := built.tail (.operation gallery _)
  have agreeBefore := known_iff_declared start built
  have agree := known_iff_declared start requested
  have silent (node : Nat) (name : String) := (not_iff_comm.mp (agree node name)).symm
  -- What is declared and which children there are is computed once for all names.
  simp only [agreeBefore, agree, silent]
  decide +kernel

end ScriptSemantics
