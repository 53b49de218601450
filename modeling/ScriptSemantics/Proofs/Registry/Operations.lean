import ScriptSemantics.Proofs.Registry.Changes

/-!
# Operations on a Registry

A host works on a registry by operations. Some of them may be refused, and then too they leave a
registry behind. Each operation is an action (`RegistryOp.action`); this file gives the outcome of
every action that registers something, together with what it leaves behind, as one equation.

Templates come with placeholders, which are registered first and one after the other. Those that
enter are described by `Registry.entering`.
-/

namespace ScriptSemantics

variable {permits : Permits}

/-- What a host does to a registry. -/
inductive RegistryOp where
  | registerType (decl : TypeDecl)
  | intern (decl : TypeDecl)
  | removeType (hash : TypeHash)
  | registerFunction (f : FunctionDecl)
  | updateFunction (f : FunctionDecl)
  | removeFunction (hash : TypeHash)
  | registerFunctionTemplate (t : FunctionTemplate)
  | registerClassTemplate (t : ClassTemplate)
  | setFunctionBackend (hash : TypeHash) (backend : FunctionBackend)
  | setClassBackend (hash : TypeHash) (backend : ClassBackend)
  | registerGlobal (g : GlobalDecl)
  | addUsing (source target : String)

namespace RegistryOp

/-- The registry afterwards, whatever the outcome. -/
def run (r : Registry) : RegistryOp → Registry
  | registerType decl => (exec (Registry.registerType decl) r).2
  | intern decl => r.intern decl
  | removeType hash => (r.removeType hash).2
  | registerFunction f => (exec (Registry.registerFunction f) r).2
  | updateFunction f => (exec (Registry.updateFunction f) r).2
  | removeFunction hash => (r.removeFunction hash).2
  | registerFunctionTemplate t => (exec (Registry.registerFunctionTemplate t) r).2
  | registerClassTemplate t => (exec (Registry.registerClassTemplate t) r).2
  | setFunctionBackend hash backend => r.setFunctionBackend hash backend
  | setClassBackend hash backend => r.setClassBackend hash backend
  | registerGlobal g => (exec (Registry.registerGlobal g) r).2
  | addUsing source target => (exec (Registry.addUsing source target) r).2

/-- Types are taken out, and class templates get their hosts, only as permitted. -/
def Permitted (permits : Permits) : RegistryOp → Prop
  | removeType _ => permits.removal
  | registerClassTemplate t => permits.backend t.backend
  | setClassBackend _ backend => permits.backend backend
  | _ => True

theorem run_changes (op : RegistryOp) (permitted : op.Permitted permits) (r : Registry) :
    Registry.Changes permits r (op.run r) := by
  cases op with
  | registerType decl => exact Registry.registerType_changes decl r
  | intern decl => exact Registry.intern_changes r decl
  | removeType hash => exact Registry.removeType_changes permitted r hash
  | registerFunction f => exact Registry.registerFunction_changes f r
  | updateFunction f => exact Registry.updateFunction_changes f r
  | removeFunction hash => exact Registry.removeFunction_changes r hash
  | registerFunctionTemplate t => exact Registry.registerFunctionTemplate_changes t r
  | registerClassTemplate t => exact Registry.registerClassTemplate_changes t permitted r
  | setFunctionBackend hash backend => exact .one (.functionBackend r hash backend)
  | setClassBackend hash backend => exact .one (.classBackend r hash backend permitted)
  | registerGlobal g => exact Registry.registerGlobal_changes g r
  | addUsing source target => exact Registry.addUsing_changes source target r

/-- Whatever a host does, functions stay under their own identity. -/
theorem run_soundFunctions (op : RegistryOp) {r : Registry} (sound : r.SoundFunctions) :
    (op.run r).SoundFunctions := by
  have permitted : op.Permitted .all := by cases op <;> exact trivial
  exact (op.run_changes permitted r).soundFunctions sound

/-- The operation as an action that may be refused. -/
def action : RegistryOp → RegistryM Unit
  | registerType decl => discard (Registry.registerType decl)
  | intern decl => modify (Registry.intern · decl)
  | removeType hash => modify fun r => (r.removeType hash).2
  | registerFunction f => discard (Registry.registerFunction f)
  | updateFunction f => Registry.updateFunction f
  | removeFunction hash => modify fun r => (r.removeFunction hash).2
  | registerFunctionTemplate t => discard (Registry.registerFunctionTemplate t)
  | registerClassTemplate t => discard (Registry.registerClassTemplate t)
  | setFunctionBackend hash backend => modify (Registry.setFunctionBackend · hash backend)
  | setClassBackend hash backend => modify (Registry.setClassBackend · hash backend)
  | registerGlobal g => discard (Registry.registerGlobal g)
  | addUsing source target => Registry.addUsing source target

/-- The action leaves behind what the operation does. -/
theorem exec_action_snd (op : RegistryOp) (r : Registry) : (exec op.action r).2 = op.run r := by
  cases op with
  | registerType | registerFunction | registerFunctionTemplate | registerClassTemplate
  | registerGlobal =>
    rw [action, exec_discard]
    rfl
  | intern | removeType | updateFunction | removeFunction | setFunctionBackend | setClassBackend
  | addUsing => rfl

end RegistryOp

namespace Registry

/-! ## Placeholders -/

/-- The registry with some placeholders behind its types. -/
def withPlaceholders (r : Registry) (ps : List Placeholder) : Registry :=
  { r with types := { entries := r.types.entries ++ ps.map fun p => (p.hash, .placeholder p) } }

/-- The placeholders that enter, one after the other, up to the first one whose identity something
else has taken. One that is registered already does not enter again. -/
def entering (r : Registry) : List Placeholder → List Placeholder
  | [] => []
  | p :: ps =>
    match r.type? p.hash with
    | none => p :: entering (r.withPlaceholders [p]) ps
    | some existing => if existing = .placeholder p then entering r ps else []

variable {r : Registry} {p : Placeholder}

@[simp] theorem withPlaceholders_nil (r : Registry) : r.withPlaceholders [] = r := by
  simp [withPlaceholders]

@[simp] theorem namespaces_withPlaceholders (r : Registry) (ps : List Placeholder) :
    (r.withPlaceholders ps).namespaces = r.namespaces := rfl

theorem withPlaceholders_cons (r : Registry) (p : Placeholder) (ps : List Placeholder) :
    (r.withPlaceholders [p]).withPlaceholders ps = r.withPlaceholders (p :: ps) := by
  simp [withPlaceholders]

theorem withPlaceholders_eq_self_iff (r : Registry) (ps : List Placeholder) :
    r.withPlaceholders ps = r ↔ ps = [] := by
  constructor
  · intro same
    have entries := congrArg (fun r : Registry => r.types.entries) same
    simpa [withPlaceholders] using entries
  · intro none
    rw [none, withPlaceholders_nil]

theorem exec_placeholder_free (free : r.type? p.hash = none) :
    exec (registerType (.placeholder p)) r = (.ok p.hash, r.withPlaceholders [p]) := by
  have absent : r.types.contains p.hash = false := by
    rw [Table.contains, ← type?, free]
    rfl
  have entered : r.addType (.placeholder p) = r.withPlaceholders [p] := by
    simp [addType, fileType, withPlaceholders, Table.insert, TypeDecl.hash, absent]
  rw [exec_registerType_free free, entered]
  rfl

theorem exec_placeholder_known (known : r.type? p.hash = some (.placeholder p)) :
    exec (registerType (.placeholder p)) r = (.ok p.hash, r) := by
  rw [exec_registerType, TypeDecl.hash, known]
  simp [TypeDecl.isStructural]

theorem exec_placeholder_taken {existing : TypeDecl} (known : r.type? p.hash = some existing)
    (other : existing ≠ .placeholder p) :
    exec (registerType (.placeholder p)) r = (.error (.duplicateType p.name), r) := by
  rw [exec_registerType, TypeDecl.hash, known]
  simp [TypeDecl.name?, other]

/-- Whatever the outcome, the placeholders that enter are what is left behind. -/
theorem exec_registerPlaceholders_snd (ps : List Placeholder) (r : Registry) :
    (exec (registerPlaceholders ps) r).2 = r.withPlaceholders (r.entering ps) := by
  induction ps generalizing r with
  | nil => exact r.withPlaceholders_nil.symm
  | cons p ps ih =>
    rw [registerPlaceholders, exec_bind, exec_discard, entering]
    cases known : r.type? p.hash with
    | none =>
      -- The placeholder enters, and the others follow behind it.
      rw [exec_placeholder_free known]
      have behind := ih (r.withPlaceholders [p])
      rw [withPlaceholders_cons] at behind
      exact behind
    | some existing =>
      by_cases same : existing = .placeholder p
      · subst same
        rw [exec_placeholder_known known]
        simp only [if_true]
        exact ih r
      · -- Here the sequence ends.
        rw [exec_placeholder_taken known same]
        simp only [if_neg same, withPlaceholders_nil]
        rfl

/-- Nothing enters exactly if the first placeholder that is not registered yet finds its identity
taken. -/
theorem entering_eq_nil_iff (r : Registry) (ps : List Placeholder) :
    r.entering ps = [] ↔
      ∀ p, ps.find? (fun p => r.type? p.hash ≠ some (.placeholder p)) = some p →
        (r.type? p.hash).isSome := by
  induction ps with
  | nil => simp [entering]
  | cons p ps ih =>
    rw [entering, List.find?_cons]
    cases known : r.type? p.hash with
    | none => simp [known]
    | some existing =>
      by_cases same : existing = .placeholder p
      · simp [same, ih]
      · simp [same, known]

/-! ## Equations -/

/-- Enter a function template whose identity is free. -/
def addFunctionTemplate (r : Registry) (t : FunctionTemplate) : Registry :=
  { r with functionTemplates := r.functionTemplates.insert t.hash t }

/-- Enter a class template whose identity is free. -/
def addClassTemplate (r : Registry) (t : ClassTemplate) : Registry :=
  { r with classTemplates := r.classTemplates.insert t.hash t }

/-- File a function template without an owner in its namespace. -/
def fileFunctionTemplate (t : FunctionTemplate) (names : NamespaceNames) : NamespaceNames :=
  { names with functionTemplates := names.functionTemplates.push t.name t.hash }

def fileClassTemplate (t : ClassTemplate) (names : NamespaceNames) : NamespaceNames :=
  { names with classTemplates := names.classTemplates.insert t.name t.hash }

def fileGlobal (g : GlobalDecl) (names : NamespaceNames) : NamespaceNames :=
  { names with globals := names.globals.insert g.name g.hash }

/-- A function is replaced if there is one; otherwise nothing changes. -/
theorem exec_updateFunction (f : FunctionDecl) (r : Registry) :
    exec (updateFunction f) r =
      if r.functions.contains f.hash then (.ok ⟨⟩, r.addFunction f)
      else (.error (.unknownType f.hash), r) := by
  rw [updateFunction, exec_bind_ok (exec_get r)]
  by_cases known : r.functions.contains f.hash
  · simp only [known]
    rfl
  · simp only [known]
    rfl

theorem exec_registerGlobal (g : GlobalDecl) (r : Registry) :
    exec (registerGlobal g) r =
      if (r.global? g.hash).isSome then (.error (.duplicateGlobal g.qualifiedName), r)
      else (.ok g.hash, { r.file g.path (fileGlobal g) with
        globals := r.globals.insert g.hash g }) := by
  rw [registerGlobal, exec_bind_ok (exec_get r)]
  by_cases taken : (r.global? g.hash).isSome
  · simp only [taken]
    rfl
  · simp only [taken]
    rfl

theorem exec_addUsing (source target : String) (r : Registry) :
    exec (addUsing source target) r =
      match r.namespaces.getPath? target with
      | none => (.error (.invalidNamespace target), r)
      | some node =>
        (.ok ⟨⟩,
          { r with
            namespaces := (r.namespaces.getOrCreatePath source).2.addUsing
              (r.namespaces.getOrCreatePath source).1 node }) := by
  rw [addUsing, exec_bind_ok (exec_get r)]
  cases r.namespaces.getPath? target with
  | none => rfl
  | some node => rfl

/-- A class template is entered behind its placeholders, unless its identity is taken or one of them
is refused. -/
theorem exec_registerClassTemplate (t : ClassTemplate) (r : Registry) :
    exec (registerClassTemplate t) r =
      if (r.classTemplate? t.hash).isSome then (.error (.duplicateTemplate t.qualifiedName), r)
      else
        match exec (registerPlaceholders t.placeholders) r with
        | (.ok _, placed) =>
          (.ok t.hash, (placed.file t.path (fileClassTemplate t)).addClassTemplate t)
        | (.error e, placed) => (.error e, placed) := by
  rw [registerClassTemplate, exec_bind_ok (exec_get r)]
  cases r.classTemplate? t.hash with
  | some existing => rfl
  | none =>
    show exec (registerPlaceholders t.placeholders >>= _) r = _
    rw [exec_bind]
    rcases exec (registerPlaceholders t.placeholders) r with ⟨e | _, placed⟩
    · rfl
    · rfl

/-- A function template is entered behind its placeholders, unless its identity is taken, one of
them is refused, or its owner is no class. -/
theorem exec_registerFunctionTemplate (t : FunctionTemplate) (r : Registry) :
    exec (registerFunctionTemplate t) r =
      if (r.functionTemplate? t.hash).isSome then
        (.error (.duplicateTemplate t.qualifiedName), r)
      else
        match exec (registerPlaceholders t.placeholders) r with
        | (.ok _, placed) =>
          match t.owner with
          | none =>
            (.ok t.hash, (placed.file t.path (fileFunctionTemplate t)).addFunctionTemplate t)
          | some owner =>
            if (placed.class? owner).isNone then (.error (.invalidOwner t.name owner), placed)
            else
              (.ok t.hash, (placed.modifyClass owner fun c =>
                { c with memberTemplates := c.memberTemplates ++ [t.hash] }).addFunctionTemplate t)
        | (.error e, placed) => (.error e, placed) := by
  rw [registerFunctionTemplate, exec_bind_ok (exec_get r)]
  cases r.functionTemplate? t.hash with
  | some existing => rfl
  | none =>
    show exec (registerPlaceholders t.placeholders >>= _) r = _
    rw [exec_bind]
    rcases exec (registerPlaceholders t.placeholders) r with ⟨e | _, placed⟩
    · rfl
    · simp only [exec_bind_ok (exec_get placed)]
      cases t.owner with
      | none => rfl
      | some owner =>
        simp only []
        cases placed.class? owner with
        | none => rfl
        | some c => rfl

end Registry

end ScriptSemantics
