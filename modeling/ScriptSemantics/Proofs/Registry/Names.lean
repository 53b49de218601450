import ScriptSemantics.Proofs.Namespace.Paths
import ScriptSemantics.Proofs.Registry.Operations

/-!
# Names over Time

A namespace has two kinds of tables. In the one kind a name stands for a single thing: a type, a
value of an unscoped enum, a class template, a variable. In the other a name has an overload set.
Registration looks for duplicates among identities, and files names without looking at what they
stand for already. So an overload set only grows, at its end, but a single thing gives way to the
next one of its name.

The file follows one operation through the tables:

1. `NamespaceNames.Filed` says what filing some bindings does to one namespace;
2. each way to file a declaration is shown to do that for the bindings of the declaration;
3. an accepted operation files its bindings in one namespace and leaves all others alone.

The main statement is `binding_kept_iff`.
-/

namespace ScriptSemantics

/-! ## Bindings -/

/-- The tables in which a name stands for a single thing. -/
inductive NameTable where
  | types
  | enumValues
  | classTemplates
  | globals
deriving DecidableEq

/-- What a name stands for. -/
inductive NameTarget where
  | entity (hash : TypeHash)
  /-- A value of an unscoped enum. -/
  | enumValue (enum : TypeHash) (value : Int64)
deriving DecidableEq

/-- What a declaration makes of the names in each table; most names it leaves alone. -/
abbrev NameBindings := NameTable → String → Option NameTarget

namespace NameBindings

/-- All names are left alone. -/
def none : NameBindings := fun _ _ => .none

/-- One name is bound. -/
def single (table : NameTable) (name : String) (target : NameTarget) : NameBindings :=
  fun other otherName => if other = table ∧ otherName = name then some target else .none

end NameBindings

/-- A name or operator with an overload set. -/
inductive OverloadName where
  | function (name : String)
  | functionTemplate (name : String)
  | operator (op : OperatorKind)

namespace NamespaceNames

/-- What a name stands for in one of the tables. -/
def target? (names : NamespaceNames) : NameBindings
  | .types, name => (names.types.get? name).map .entity
  | .enumValues, name => (names.enumValues.get? name).map fun entry => .enumValue entry.1 entry.2
  | .classTemplates, name => (names.classTemplates.get? name).map .entity
  | .globals, name => (names.globals.get? name).map .entity

/-- An overload set, if there is one. -/
def overloads? (names : NamespaceNames) : OverloadName → Option (List TypeHash)
  | .function name => names.functions.get? name
  | .functionTemplate name => names.functionTemplates.get? name
  | .operator op => names.operators.get? op

/-- Some bindings were filed, and apart from them every name stands for what it stood for. Overload
sets have grown at their end. -/
structure Filed (bindings : NameBindings) (names names' : NamespaceNames) : Prop where
  targets : ∀ table name,
    names'.target? table name = (bindings table name).or (names.target? table name)
  overloads : ∀ key set, names.overloads? key = some set →
    ∃ more, names'.overloads? key = some (set ++ more)

end NamespaceNames

/-! ## What a declaration binds -/

/-- The names of a type: its own, and those of the values of an unscoped enum. Of two values with
one name the later one counts. -/
def TypeDecl.binds : TypeDecl → NameBindings
  | .classType c => .single .types c.name (.entity c.hash)
  | .enumType e => fun table name =>
    match table with
    | .types => if name = e.name then some (.entity e.hash) else none
    | .enumValues =>
      if e.isScoped then none else (e.values.reverse.lookup name).map (.enumValue e.hash)
    | .classTemplates | .globals => none
  | .closure c => .single .types c.name (.entity c.hash)
  | .fundamental _ | .functionType _ | .placeholder _ | .pattern _ => .none

/-- The namespace that the names of a type are filed in. -/
def TypeDecl.path : TypeDecl → String
  | .classType c => c.path
  | .enumType e => e.path
  | _ => ""

namespace RegistryOp

/-- The bindings that an operation files when it is accepted. -/
def binds : RegistryOp → NameBindings
  | registerType decl => decl.binds
  | registerClassTemplate t => .single .classTemplates t.name (.entity t.hash)
  | registerGlobal g => .single .globals g.name (.entity g.hash)
  | _ => .none

/-- The namespace that an operation files names in. -/
def path : RegistryOp → String
  | registerType decl => decl.path
  | registerFunction f => f.path
  | registerFunctionTemplate t => t.path
  | registerClassTemplate t => t.path
  | registerGlobal g => g.path
  | _ => ""

end RegistryOp

/-! ## Filing into one namespace -/

namespace Table

variable {κ α : Type} [DecidableEq κ]

/-- Entries made one after the other: the last one for a key counts. -/
theorem get?_foldl_insert {β : Type} (entries : List (κ × β)) (value : β → α) (table : Table κ α)
    (key : κ) :
    (entries.foldl (fun table entry => table.insert entry.1 (value entry.2)) table).get? key =
      ((entries.reverse.lookup key).map value).or (table.get? key) := by
  induction entries generalizing table with
  | nil => rfl
  | cons entry entries ih =>
    obtain ⟨first, b⟩ := entry
    rw [List.foldl_cons, ih, get?_insert, List.reverse_cons, List.lookup_append]
    -- What comes later counts first, so only a key without a later entry sees this one.
    cases entries.reverse.lookup key with
    | some later => rfl
    | none =>
      by_cases same : key = first
      · simp [same]
      · have miss : (key == first) = false := by simpa using same
        simp [List.lookup_cons, miss, same]

/-- What is pushed stands behind what was there. -/
theorem exists_append_of_push {β : Type} {table : Table κ (List β)} {key : κ} {set : List β}
    (found : table.get? key = some set) (other : κ) (value : β) :
    ∃ more, (table.push other value).get? key = some (set ++ more) := by
  rw [get?_push]
  by_cases same : key = other
  · subst same
    exact ⟨[value], by rw [if_pos rfl, found]; rfl⟩
  · exact ⟨[], by rw [if_neg same, List.append_nil, found]⟩

end Table

namespace NamespaceNames

variable (names : NamespaceNames)

/-- If only tables of single things change, the overload sets are as they were. -/
theorem overloads_of_eq {names' : NamespaceNames} (same : names'.overloads? = names.overloads?)
    (key : OverloadName) (set : List TypeHash) (found : names.overloads? key = some set) :
    ∃ more, names'.overloads? key = some (set ++ more) :=
  ⟨[], by rw [same, List.append_nil, found]⟩

theorem filed_none : Filed .none names names where
  targets _ _ := rfl
  overloads := overloads_of_eq names rfl

theorem filed_type (name : String) (hash : TypeHash) :
    Filed (.single .types name (.entity hash)) names
      { names with types := names.types.insert name hash } where
  targets table other := by
    cases table with
    | types =>
      simp only [target?, NameBindings.single, Table.get?_insert]
      by_cases same : other = name <;> simp [same]
    | enumValues | classTemplates | globals => rfl
  overloads := overloads_of_eq names rfl

theorem filed_classTemplate (t : ClassTemplate) :
    Filed (.single .classTemplates t.name (.entity t.hash)) names
      (Registry.fileClassTemplate t names) where
  targets table other := by
    cases table with
    | classTemplates =>
      simp only [target?, NameBindings.single, Registry.fileClassTemplate, Table.get?_insert]
      by_cases same : other = t.name <;> simp [same]
    | types | enumValues | globals => rfl
  overloads := overloads_of_eq names rfl

theorem filed_global (g : GlobalDecl) :
    Filed (.single .globals g.name (.entity g.hash)) names (Registry.fileGlobal g names) where
  targets table other := by
    cases table with
    | globals =>
      simp only [target?, NameBindings.single, Registry.fileGlobal, Table.get?_insert]
      by_cases same : other = g.name <;> simp [same]
    | types | enumValues | classTemplates => rfl
  overloads := overloads_of_eq names rfl

theorem filed_functionTemplate (t : FunctionTemplate) :
    Filed .none names (Registry.fileFunctionTemplate t names) where
  targets table _ := by cases table <;> rfl
  overloads key set found := by
    cases key with
    | functionTemplate name => exact Table.exists_append_of_push found t.name t.hash
    | function | operator => exact overloads_of_eq names rfl _ set found

theorem filed_free (f : FunctionDecl) : Filed .none names (Registry.fileFree f names) := by
  unfold Registry.fileFree
  split
  · -- An operator is filed by its kind.
    refine ⟨fun table _ => by cases table <;> rfl, ?_⟩
    intro key set found
    cases key with
    | operator op => exact Table.exists_append_of_push found _ f.hash
    | function | functionTemplate => exact overloads_of_eq names rfl _ set found
  · exact filed_none names
  · refine ⟨fun table _ => by cases table <;> rfl, ?_⟩
    intro key set found
    cases key with
    | function name => exact Table.exists_append_of_push found f.name f.hash
    | functionTemplate | operator => exact overloads_of_eq names rfl _ set found

/-- The names of a namespace with those of an enum. -/
def withEnum (e : EnumDecl) : NamespaceNames :=
  { names with
    types := names.types.insert e.name e.hash
    enumValues :=
      if e.isScoped then names.enumValues
      else e.values.foldl (fun table entry => table.insert entry.1 (e.hash, entry.2))
        names.enumValues }

theorem filed_enum (e : EnumDecl) :
    Filed (TypeDecl.enumType e).binds names (names.withEnum e) where
  targets table name := by
    cases table with
    | types =>
      simp only [target?, TypeDecl.binds, withEnum, Table.get?_insert]
      by_cases same : name = e.name <;> simp [same]
    | enumValues =>
      simp only [target?, TypeDecl.binds, withEnum]
      by_cases hidden : e.isScoped
      · simp [hidden]
      · simp only [if_neg hidden]
        rw [Table.get?_foldl_insert]
        cases e.values.reverse.lookup name <;> rfl
    | classTemplates | globals => rfl
  overloads := overloads_of_eq names rfl

end NamespaceNames

/-! ## Filing into the registry -/

namespace Registry

/-- What a name stands for in a namespace. -/
def target? (r : Registry) (node : Nat) (table : NameTable) (name : String) : Option NameTarget :=
  (r.namespaces.names? node).bind fun names => names.target? table name

/-- An overload set of a namespace. -/
def overloads? (r : Registry) (node : Nat) (key : OverloadName) : Option (List TypeHash) :=
  (r.namespaces.names? node).bind fun names => names.overloads? key

/-- The node that names are filed in under a path. -/
def site (r : Registry) (path : String) : Nat := (r.namespaces.getOrCreatePath path).1

/-- Bindings were filed in the namespace of a path, and all other namespaces were left alone. The
built-in operators have grown at their end. -/
structure FiledAt (path : String) (bindings : NameBindings) (r r' : Registry) : Prop where
  names : ∀ node names, r.namespaces.names? node = some names →
    ∃ names', r'.namespaces.names? node = some names' ∧
      NamespaceNames.Filed (if r.site path = node then bindings else .none) names names'
  builtins : ∀ op set, r.builtinOperators.get? op = some set →
    ∃ more, r'.builtinOperators.get? op = some (set ++ more)

namespace FiledAt

variable {r r' : Registry} {path : String} {bindings : NameBindings}

/-- Filing is a matter of namespaces and built-in operators. -/
theorem congr {r₁ r₁' : Registry} (filed : FiledAt path bindings r₁ r₁')
    (namespaces : r₁.namespaces = r.namespaces) (namespaces' : r'.namespaces = r₁'.namespaces)
    (builtins : r₁.builtinOperators = r.builtinOperators)
    (builtins' : r'.builtinOperators = r₁'.builtinOperators) : FiledAt path bindings r r' where
  names := by
    have sites : r₁.site path = r.site path := by rw [site, namespaces, site]
    rw [namespaces', ← namespaces, ← sites]
    exact filed.names
  builtins := by
    rw [builtins', ← builtins]
    exact filed.builtins

/-- Nothing was filed. -/
theorem none (r : Registry) (path : String) : FiledAt path .none r r where
  names node names known := by
    refine ⟨names, known, ?_⟩
    rw [ite_self]
    exact names.filed_none
  builtins _ set found := ⟨[], by rw [List.append_nil, found]⟩

theorem file {change : NamespaceNames → NamespaceNames}
    (filed : ∀ names, NamespaceNames.Filed bindings names (change names)) :
    FiledAt path bindings r (r.file path change) where
  names node names known := by
    have created := NamespaceTree.names?_getOrCreatePath known path
    -- The node of the path sees the change, and no other node does.
    have after : (r.file path change).namespaces.names? node =
        some (if r.site path = node then change names else names) := by
      show ((r.namespaces.getOrCreatePath path).2.modifyNames (r.site path) change).names? node = _
      rw [NamespaceTree.names?_modifyNames, created]
      split <;> rfl
    refine ⟨_, after, ?_⟩
    split
    · exact filed names
    · exact names.filed_none
  builtins _ set found := ⟨[], by rw [List.append_nil]; exact found⟩

/-! ## Accepted operations -/

theorem addType (r : Registry) (decl : TypeDecl) :
    FiledAt decl.path decl.binds r (r.addType decl) := by
  cases decl with
  | classType c => exact (file fun names => names.filed_type c.name c.hash).congr rfl rfl rfl rfl
  | enumType e => exact (file fun names => names.filed_enum e).congr rfl rfl rfl rfl
  | closure c => exact (file fun names => names.filed_type c.name c.hash).congr rfl rfl rfl rfl
  | fundamental | functionType | placeholder | pattern =>
    exact (none r _).congr rfl rfl rfl rfl

theorem registerType {decl : TypeDecl} {hash : TypeHash}
    (accepted : exec (registerType decl) r = (.ok hash, r')) :
    FiledAt decl.path decl.binds r r' := by
  rw [exec_registerType] at accepted
  cases known : r.type? decl.hash with
  | none =>
    rw [known] at accepted
    cases accepted
    exact addType r decl
  | some existing =>
    -- An identity is shared by equal structural types only, and those have no names.
    rw [known] at accepted
    simp only [Prod.mk.injEq] at accepted
    obtain ⟨outcome, rfl⟩ := accepted
    split at outcome
    · rename_i shared
      cases decl with
      | functionType | placeholder | pattern => exact none r _
      | fundamental | classType | enumType | closure => cases shared
    · cases outcome

theorem fileUnowned (r : Registry) (f : FunctionDecl) :
    FiledAt f.path .none r (r.fileUnowned f) := by
  unfold Registry.fileUnowned
  split
  · split
    · -- A built-in operator belongs to no namespace.
      rename_i op _
      refine ⟨(none r _).names, fun key set found => ?_⟩
      exact Table.exists_append_of_push found op f.hash
    · exact none r _
  · exact file fun names => names.filed_free f

theorem registerFunction {f : FunctionDecl} {hash : TypeHash}
    (accepted : exec (registerFunction f) r = (.ok hash, r')) :
    FiledAt f.path .none r r' := by
  rw [exec_registerFunction] at accepted
  split at accepted
  · cases accepted
  · cases owned : f.owner with
    | none =>
      rw [owned] at accepted
      cases accepted
      exact (fileUnowned r f).congr rfl rfl rfl rfl
    | some owner =>
      rw [owned] at accepted
      simp only at accepted
      split at accepted
      · cases accepted
      · cases accepted
        exact (none r _).congr rfl rfl rfl rfl

theorem registerGlobal {g : GlobalDecl} {hash : TypeHash}
    (accepted : exec (registerGlobal g) r = (.ok hash, r')) :
    FiledAt g.path (.single .globals g.name (.entity g.hash)) r r' := by
  rw [exec_registerGlobal] at accepted
  split at accepted
  · cases accepted
  · cases accepted
    exact (file fun names => names.filed_global g).congr rfl rfl rfl rfl

theorem registerClassTemplate {t : ClassTemplate} {hash : TypeHash}
    (accepted : exec (registerClassTemplate t) r = (.ok hash, r')) :
    FiledAt t.path (.single .classTemplates t.name (.entity t.hash)) r r' := by
  rw [exec_registerClassTemplate] at accepted
  have left := exec_registerPlaceholders_snd t.placeholders r
  rcases placing : exec (registerPlaceholders t.placeholders) r with ⟨e | _, placed⟩
  · rw [placing] at accepted
    split at accepted <;> cases accepted
  · -- Placeholders have no names, so the template is filed as if they were not there.
    rw [placing] at accepted left
    obtain rfl : placed = r.withPlaceholders (r.entering t.placeholders) := left
    split at accepted
    · cases accepted
    · cases accepted
      exact (file fun names => names.filed_classTemplate t).congr rfl rfl rfl rfl

theorem registerFunctionTemplate {t : FunctionTemplate} {hash : TypeHash}
    (accepted : exec (registerFunctionTemplate t) r = (.ok hash, r')) :
    FiledAt t.path .none r r' := by
  rw [exec_registerFunctionTemplate] at accepted
  have left := exec_registerPlaceholders_snd t.placeholders r
  rcases placing : exec (registerPlaceholders t.placeholders) r with ⟨e | _, placed⟩
  · rw [placing] at accepted
    split at accepted <;> cases accepted
  · rw [placing] at accepted left
    obtain rfl : placed = r.withPlaceholders (r.entering t.placeholders) := left
    split at accepted
    · cases accepted
    · cases owned : t.owner with
      | none =>
        rw [owned] at accepted
        cases accepted
        exact (file fun names => names.filed_functionTemplate t).congr rfl rfl rfl rfl
      | some owner =>
        rw [owned] at accepted
        simp only at accepted
        split at accepted
        · cases accepted
        · cases accepted
          exact (none r _).congr rfl rfl rfl rfl

theorem addUsing {source target : String} (path : String)
    (accepted : exec (addUsing source target) r = (.ok ⟨⟩, r')) : FiledAt path .none r r' := by
  rw [exec_addUsing] at accepted
  cases found : r.namespaces.getPath? target with
  | none =>
    rw [found] at accepted
    cases accepted
  | some node =>
    rw [found] at accepted
    cases accepted
    refine ⟨fun node names known => ⟨names, ?_, ?_⟩, (none r path).builtins⟩
    · rw [NamespaceTree.names?_addUsing]
      exact NamespaceTree.names?_getOrCreatePath known source
    · rw [ite_self]
      exact names.filed_none

end FiledAt

end Registry

namespace RegistryOp

variable {r r' : Registry}

theorem exec_eq_ok_of_discard {α : Type} {action : RegistryM α}
    (accepted : exec (discard action) r = (.ok ⟨⟩, r')) : ∃ a, exec action r = (.ok a, r') := by
  rw [exec_discard] at accepted
  rcases ran : exec action r with ⟨e | a, after⟩
  · rw [ran] at accepted
    cases accepted
  · rw [ran] at accepted
    cases accepted
    exact ⟨a, rfl⟩

/-- An accepted operation files its bindings under its path, unless it takes a type out. -/
theorem filedAt_of_accepted {op : RegistryOp} (accepted : exec op.action r = (.ok ⟨⟩, r'))
    (stays : ∀ hash, op ≠ removeType hash) : Registry.FiledAt op.path op.binds r r' := by
  cases op with
  | registerType decl =>
    obtain ⟨_, ran⟩ := exec_eq_ok_of_discard accepted
    exact .registerType ran
  | registerFunction f =>
    obtain ⟨_, ran⟩ := exec_eq_ok_of_discard accepted
    exact .registerFunction ran
  | registerFunctionTemplate t =>
    obtain ⟨_, ran⟩ := exec_eq_ok_of_discard accepted
    exact .registerFunctionTemplate ran
  | registerClassTemplate t =>
    obtain ⟨_, ran⟩ := exec_eq_ok_of_discard accepted
    exact .registerClassTemplate ran
  | registerGlobal g =>
    obtain ⟨_, ran⟩ := exec_eq_ok_of_discard accepted
    exact .registerGlobal ran
  | addUsing source target => exact .addUsing _ accepted
  | updateFunction f =>
    rw [action, Registry.exec_updateFunction] at accepted
    split at accepted
    · cases accepted
      exact (Registry.FiledAt.none r _).congr rfl rfl rfl rfl
    · cases accepted
  | intern decl =>
    cases accepted
    -- A structural type enters without a name.
    show Registry.FiledAt _ .none r (r.intern decl)
    unfold Registry.intern
    split
    · exact Registry.FiledAt.none r _
    · exact (Registry.FiledAt.none r _).congr rfl rfl rfl rfl
  | removeFunction | setFunctionBackend | setClassBackend =>
    cases accepted
    exact (Registry.FiledAt.none r _).congr rfl rfl rfl rfl
  | removeType hash => exact absurd rfl (stays hash)

/-- **What becomes of names.** After an accepted operation that does not take a type out, a name
still stands for what it stood for if and only if the operation does not bind that name, in that
namespace and table, to something else. Overload sets, those of the built-in operators included,
only grow, and only at their end. -/
theorem binding_kept_iff {op : RegistryOp} (accepted : exec op.action r = (.ok ⟨⟩, r'))
    (stays : ∀ hash, op ≠ removeType hash) :
    (∀ node table name target, r.target? node table name = some target →
        (r'.target? node table name = some target ↔
          (r.site op.path = node → ∀ other, op.binds table name = some other → other = target))) ∧
      (∀ node key set, r.overloads? node key = some set →
        ∃ more, r'.overloads? node key = some (set ++ more)) ∧
      ∀ key set, r.builtinOperators.get? key = some set →
        ∃ more, r'.builtinOperators.get? key = some (set ++ more) := by
  have filed := filedAt_of_accepted accepted stays
  refine ⟨?_, ?_, filed.builtins⟩
  · intro node table name target bound
    obtain ⟨names, known, inNames⟩ := Option.bind_eq_some_iff.1 bound
    obtain ⟨names', known', change⟩ := filed.names node names known
    have after : r'.target? node table name = names'.target? table name := by
      rw [Registry.target?, known', Option.bind_some]
    rw [after, change.targets, inNames]
    by_cases here : r.site op.path = node
    · -- What the operation binds comes first.
      simp only [here, if_true, forall_const]
      cases op.binds table name with
      | none => simp
      | some other => simp
    · simp [here, NameBindings.none]
  · intro node key set found
    obtain ⟨names, known, inNames⟩ := Option.bind_eq_some_iff.1 found
    obtain ⟨names', known', change⟩ := filed.names node names known
    obtain ⟨more, grown⟩ := change.overloads key set inNames
    refine ⟨more, ?_⟩
    rw [Registry.overloads?, known']
    exact grown

/-! Declarations in one namespace, and others that come later under the same names: an enum with a
value of the same name, and a class, a class template and a variable whose namespace is spelled
`::gfx` instead of `gfx`. That is the same namespace, but not the same identity. -/

def colors : EnumDecl := .declare "gfx" "Color" [("Red", 0)] false

def alarms : EnumDecl := .declare "gfx" "Alarm" [("Red", 7)] false

def shapeIn (path : String) : RegistryOp := registerType (.classType (.declare path "Shape"))

def boxIn (path : String) : RegistryOp :=
  registerClassTemplate (.declare path "Box" .elementList)

def originIn (path : String) : RegistryOp :=
  registerGlobal (.declare path "origin" (.ofKind .int) .host)

/-- The registry after the first declarations. -/
def graphics : Registry :=
  [registerType (.enumType colors), shapeIn "gfx", boxIn "gfx", originIn "gfx"].foldl run
    .withBuiltins

/-- The node of the namespace `gfx`. -/
def gfx : Nat := 1

/-- The second enum is accepted. The type name of the first one stays, the name of its value does
not. -/
theorem binding_kept_iff_graphics :
    ∃ after, exec (registerType (.enumType alarms)).action graphics = (.ok ⟨⟩, after) ∧
      after.target? gfx .types "Color" = some (.entity colors.hash) ∧
      graphics.target? gfx .enumValues "Red" = some (.enumValue colors.hash 0) ∧
      after.target? gfx .enumValues "Red" ≠ some (.enumValue colors.hash 0) := by
  have accepted : (exec (registerType (.enumType alarms)).action graphics).1.toOption.isSome := by
    decide +kernel
  have color : graphics.target? gfx .types "Color" = some (.entity colors.hash) := by
    decide +kernel
  have red : graphics.target? gfx .enumValues "Red" = some (.enumValue colors.hash 0) := by
    decide +kernel
  have here : graphics.site (registerType (.enumType alarms)).path = gfx := by decide +kernel
  have unnamed : (registerType (.enumType alarms)).binds .types "Color" = none := by
    decide +kernel
  have rebound : (registerType (.enumType alarms)).binds .enumValues "Red" =
      some (.enumValue alarms.hash 7) := by
    decide +kernel
  rcases ran : exec (registerType (.enumType alarms)).action graphics with ⟨e | _, after⟩
  · rw [ran] at accepted
    cases accepted
  · obtain ⟨kept, -⟩ := binding_kept_iff ran (fun hash same => by cases same)
    refine ⟨after, rfl, ?_, red, ?_⟩
    · refine (kept gfx .types "Color" _ color).2 fun _ other bound => ?_
      rw [unnamed] at bound
      cases bound
    · intro still
      have same := (kept gfx .enumValues "Red" _ red).1 still here _ rebound
      revert same
      decide +kernel

/-- The operation is accepted, and a name that was bound stands for something else afterwards. -/
def Rebinds (r : Registry) (op : RegistryOp) (node : Nat) (table : NameTable) (name : String) :
    Prop :=
  (exec op.action r).1.toOption.isSome ∧ (r.target? node table name).isSome ∧
    (exec op.action r).2.target? node table name ≠ r.target? node table name

/-- In each of the four tables a name gives way to a later declaration. -/
theorem accepted_declarations_rebind :
    Rebinds graphics (registerType (.enumType alarms)) gfx .enumValues "Red" ∧
      Rebinds graphics (shapeIn "::gfx") gfx .types "Shape" ∧
      Rebinds graphics (boxIn "::gfx") gfx .classTemplates "Box" ∧
      Rebinds graphics (originIn "::gfx") gfx .globals "origin" := by
  unfold Rebinds
  decide +kernel

end RegistryOp

end ScriptSemantics
