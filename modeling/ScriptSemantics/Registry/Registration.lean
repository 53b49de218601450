import ScriptSemantics.Diagnostic
import ScriptSemantics.Registry.Basic

/-!
# Registration

Entering declarations into a registry, and taking them out again. An action on a registry returns
its outcome together with the registry it leaves behind, also when it is refused.
-/

namespace ScriptSemantics

/-- An action on a registry that may be refused. -/
abbrev RegistryM := ExceptT RegistrationError (StateM Registry)

namespace Registry

/-! ## Filing names -/

/-- Enter names into the namespace of a path, which is created if it is missing. -/
def file (r : Registry) (path : String) (change : NamespaceNames → NamespaceNames) : Registry :=
  let (node, tree) := r.namespaces.getOrCreatePath path
  { r with namespaces := tree.modifyNames node change }

/-- Change the class declaration stored under an identity. -/
def modifyClass (r : Registry) (hash : TypeHash) (change : ClassDecl → ClassDecl) : Registry :=
  { r with
    types := r.types.modify hash fun
      | .classType c => .classType (change c)
      | other => other }

/-! ## Types -/

/-- File the name of a type: classes and enums in their namespace, closures in the root. -/
def fileType (r : Registry) : TypeDecl → Registry
  | .classType c =>
    r.file c.path fun names => { names with types := names.types.insert c.name c.hash }
  | .enumType e =>
    r.file e.path fun names =>
      { names with
        types := names.types.insert e.name e.hash
        enumValues :=
          if e.isScoped then names.enumValues
          else e.values.foldl (fun table (name, value) => table.insert name (e.hash, value))
            names.enumValues }
  | .closure c => r.file "" fun names => { names with types := names.types.insert c.name c.hash }
  | .fundamental _ | .functionType _ | .placeholder _ | .pattern _ => r

/-- Enter a type whose identity is free. -/
def addType (r : Registry) (decl : TypeDecl) : Registry :=
  { r.fileType decl with types := r.types.insert decl.hash decl }

/-- Register a type. An identity is taken once; only equal structural types share it. -/
def registerType (decl : TypeDecl) : RegistryM TypeHash := do
  let r ← get
  match r.type? decl.hash with
  | none =>
    set (r.addType decl)
    return decl.hash
  | some existing =>
    if decl.isStructural && existing == decl then return decl.hash
    throw (.duplicateType (decl.name?.getD "<anonymous>"))

/-- The registry with a structural type under its identity, unless that is taken. -/
def intern (r : Registry) (decl : TypeDecl) : Registry :=
  if r.types.contains decl.hash then r else { r with types := r.types.insert decl.hash decl }

/-- Take a type out. A class takes its name and its constructors, casts and methods along. -/
def removeType (r : Registry) (hash : TypeHash) : Option TypeDecl × Registry :=
  match r.type? hash with
  | none => (none, r)
  | some decl =>
    let r := { r with types := r.types.erase hash }
    match decl with
    | .classType c =>
      let namespaces :=
        match r.namespaces.getPath? c.path with
        | some node => r.namespaces.modifyNames node fun names =>
            { names with types := names.types.erase c.name }
        | none => r.namespaces
      let functions := (c.constructors ++ c.casts ++ c.methods).foldl Table.erase r.functions
      (some decl, { r with namespaces := namespaces, functions := functions })
    | _ => (some decl, r)

/-! ## Functions -/

/-- File a member in its class. Template instances are filed nowhere. -/
def fileMember (f : FunctionDecl) (c : ClassDecl) : ClassDecl :=
  match f.kind with
  | .constructor => { c with constructors := c.constructors ++ [f.hash] }
  | .destructor => { c with destructor := some f.hash }
  | .cast => { c with casts := c.casts ++ [f.hash] }
  | .templateInstance _ _ => c
  | .regular | .operator _ => { c with methods := c.methods ++ [f.hash] }

/-- File a free function in its namespace. Template instances are filed nowhere. -/
def fileFree (f : FunctionDecl) (names : NamespaceNames) : NamespaceNames :=
  match f.kind with
  | .operator op => { names with operators := names.operators.push op f.hash }
  | .templateInstance _ _ => names
  | _ => { names with functions := names.functions.push f.name f.hash }

/-- File a function without an owner: built-in operators by kind, others in their namespace. -/
def fileUnowned (r : Registry) (f : FunctionDecl) : Registry :=
  if f.traits.isBuiltin then
    match f.operator? with
    | some op => { r with builtinOperators := r.builtinOperators.push op f.hash }
    | none => r
  else r.file f.path (fileFree f)

/-- Register a function. Members are filed in their class, which has to be registered. -/
def registerFunction (f : FunctionDecl) : RegistryM TypeHash := do
  let r ← get
  if r.functions.contains f.hash then throw (.duplicateFunction f.name)
  let filed ←
    match f.owner with
    | none => pure (r.fileUnowned f)
    | some owner =>
      if (r.class? owner).isNone then throw (.invalidOwner f.name owner)
      pure (r.modifyClass owner (fileMember f))
  set { filed with functions := filed.functions.insert f.hash f }
  return f.hash

/-- Replace a registered function. -/
def updateFunction (f : FunctionDecl) : RegistryM Unit := do
  let r ← get
  if !r.functions.contains f.hash then throw (.unknownType f.hash)
  set { r with functions := r.functions.insert f.hash f }

/-- Take a function out. Where it was filed, its identity stays. -/
def removeFunction (r : Registry) (hash : TypeHash) : Option FunctionDecl × Registry :=
  (r.function? hash, { r with functions := r.functions.erase hash })

/-! ## Templates and variables -/

/-- Register the placeholders of a template, one after the other. -/
def registerPlaceholders : List Placeholder → RegistryM Unit
  | [] => return ()
  | placeholder :: placeholders => do
    discard (registerType (.placeholder placeholder))
    registerPlaceholders placeholders

/-- Register a function template and its placeholders. -/
def registerFunctionTemplate (t : FunctionTemplate) : RegistryM TypeHash := do
  if ((← get).functionTemplate? t.hash).isSome then throw (.duplicateTemplate t.qualifiedName)
  registerPlaceholders t.placeholders
  let r ← get
  let filed ←
    match t.owner with
    | none => pure (r.file t.path fun names =>
        { names with functionTemplates := names.functionTemplates.push t.name t.hash })
    | some owner =>
      if (r.class? owner).isNone then throw (.invalidOwner t.name owner)
      pure (r.modifyClass owner fun c =>
        { c with memberTemplates := c.memberTemplates ++ [t.hash] })
  set { filed with functionTemplates := filed.functionTemplates.insert t.hash t }
  return t.hash

/-- Register a class template and its placeholders. -/
def registerClassTemplate (t : ClassTemplate) : RegistryM TypeHash := do
  if ((← get).classTemplate? t.hash).isSome then throw (.duplicateTemplate t.qualifiedName)
  registerPlaceholders t.placeholders
  let r ← get
  let filed := r.file t.path fun names =>
    { names with classTemplates := names.classTemplates.insert t.name t.hash }
  set { filed with classTemplates := filed.classTemplates.insert t.hash t }
  return t.hash

/-- Replace the host's part in a registered function template. What the host answers may depend on
what it knows by then; instances that exist already stay as they are. -/
def setFunctionBackend (r : Registry) (hash : TypeHash) (backend : FunctionBackend) : Registry :=
  { r with functionTemplates := r.functionTemplates.modify hash ({ · with backend := backend }) }

/-- Replace the host's part in a registered class template. -/
def setClassBackend (r : Registry) (hash : TypeHash) (backend : ClassBackend) : Registry :=
  { r with classTemplates := r.classTemplates.modify hash ({ · with backend := backend }) }

/-- Register a namespace variable. -/
def registerGlobal (g : GlobalDecl) : RegistryM TypeHash := do
  let r ← get
  if (r.global? g.hash).isSome then throw (.duplicateGlobal g.qualifiedName)
  let filed := r.file g.path fun names =>
    { names with globals := names.globals.insert g.name g.hash }
  set { filed with globals := filed.globals.insert g.hash g }
  return g.hash

/-- Import the namespace `target`, which has to exist, into the namespace `source`. -/
def addUsing (source target : String) : RegistryM Unit := do
  let r ← get
  match r.namespaces.getPath? target with
  | none => throw (.invalidNamespace target)
  | some targetNode =>
    let (sourceNode, tree) := r.namespaces.getOrCreatePath source
    set { r with namespaces := tree.addUsing sourceNode targetNode }

end Registry

end ScriptSemantics
