import Mathlib.Data.List.Nodup
import ScriptSemantics.Proofs.Namespace.Hierarchy
import ScriptSemantics.Proofs.Registry.Names
import ScriptSemantics.Proofs.Registry.Rollback
import ScriptSemantics.Registry.Hierarchy

/-!
# Where Functions Are Filed

A function is stored under its identity, and its identity is filed in a list: of its class, of its
namespace, or of the built-in operators. Look-up, conversions and brace lists start from those
lists, so nothing may be lost, filed twice or filed in the wrong place:

1. `Registry.listOf?` says which list a function belongs in, by its owner, kind, traits and path.
2. `Registry.Files` is what every history of registrations keeps: each list holds the functions that
   belong in it, in the order of their registration, and nothing else.
3. Registering anything but a function leaves all lists alone (`Registry.Quiet`). Registering a
   function adds it at the end of its list, if it has one (`Registry.Takes`).

The main statement is `functions_filed_once`.
-/

namespace ScriptSemantics

/-! ## Lists of functions -/

/-- The lists of a class. -/
inductive MemberList where
  | constructors
  | casts
  | methods
deriving DecidableEq

/-- The lists of a namespace. -/
inductive SpaceList where
  | operators (op : OperatorKind)
  | overloads (name : String)
deriving DecidableEq

/-- The lists that functions are filed in. -/
inductive FunctionList where
  | member (owner : TypeHash) (list : MemberList)
  | space (node : Nat) (list : SpaceList)
  | builtin (op : OperatorKind)
deriving DecidableEq

def ClassDecl.membersIn (c : ClassDecl) : MemberList → List TypeHash
  | .constructors => c.constructors
  | .casts => c.casts
  | .methods => c.methods

def NamespaceNames.functionsIn (names : NamespaceNames) : SpaceList → List TypeHash
  | .operators op => (names.operators.get? op).getD []
  | .overloads name => (names.functions.get? name).getD []

/-- The names of a node; a node that does not exist has none. -/
def NamespaceTree.namesAt (tree : NamespaceTree) (node : Nat) : NamespaceNames :=
  (tree.names? node).getD {}

namespace FunctionDecl

def isTemplateInstance (f : FunctionDecl) : Bool :=
  match f.kind with
  | .templateInstance _ _ => true
  | _ => false

/-- The list of its class that a member belongs in. A destructor has a place of its own there. -/
def memberList? (f : FunctionDecl) : Option MemberList :=
  match f.kind with
  | .constructor => some .constructors
  | .cast => some .casts
  | .regular | .operator _ => some .methods
  | .destructor | .templateInstance _ _ => none

/-- The list of its namespace that a free function belongs in. -/
def spaceList? (f : FunctionDecl) : Option SpaceList :=
  match f.kind with
  | .operator op => some (.operators op)
  | .templateInstance _ _ => none
  | _ => some (.overloads f.name)

end FunctionDecl

namespace Registry

/-- What a list holds. -/
def listed (r : Registry) : FunctionList → List TypeHash
  | .member owner list => (r.class? owner).elim [] (·.membersIn list)
  | .space node list => (r.namespaces.namesAt node).functionsIn list
  | .builtin op => r.builtins op

/-- The list that a function belongs in. -/
def listOf? (r : Registry) (f : FunctionDecl) : Option FunctionList :=
  match f.owner with
  | some owner => f.memberList?.map (.member owner)
  | none =>
    if f.traits.isBuiltin then f.operator?.map .builtin
    else (r.namespaces.getPath? f.path).bind fun node => f.spaceList?.map (.space node)

/-- A free function that is not built in needs a namespace. -/
def HasSpace (r : Registry) (f : FunctionDecl) : Prop :=
  f.owner = none → f.traits.isBuiltin = false → (r.namespaces.getPath? f.path).isSome

/-- The registry holds these functions, in this order, and every list holds those that belong in
it. -/
structure Files (r : Registry) (fs : List FunctionDecl) : Prop where
  tree : r.namespaces.WellFormed
  entries : r.functions.entries = fs.map fun f => (f.hash, f)
  distinct : (fs.map FunctionDecl.hash).Nodup
  spaces : ∀ f ∈ fs, r.HasSpace f
  lists : ∀ list,
    r.listed list = (fs.filter fun f => r.listOf? f = some list).map FunctionDecl.hash

end Registry

/-! ## Namespaces -/

namespace NamespaceTree

variable {tree tree' : NamespaceTree}

theorem namesAt_getOrCreateChild (tree : NamespaceTree) (parent : Nat) (name : String)
    (node : Nat) : (tree.getOrCreateChild parent name).2.namesAt node = tree.namesAt node := by
  cases found : tree.child? parent name with
  | some child => rw [getOrCreateChild_of_child? found]
  | none =>
    -- The new node has no names, which is what it had before it existed.
    rw [getOrCreateChild_of_missing found]
    simp only [namesAt, names?, List.getElem?_append]
    split
    · rfl
    · rename_i outside
      rw [List.getElem?_eq_none (Nat.le_of_not_lt outside)]
      cases node - tree.nodes.length <;> simp

theorem namesAt_getOrCreateFrom (tree : NamespaceTree) (start : Nat) (names : List String)
    (node : Nat) : (tree.getOrCreateFrom start names).2.namesAt node = tree.namesAt node := by
  induction names generalizing tree start with
  | nil => rfl
  | cons name names ih => rw [getOrCreateFrom, ih, namesAt_getOrCreateChild]

theorem namesAt_getOrCreatePath (tree : NamespaceTree) (path : String) (node : Nat) :
    (tree.getOrCreatePath path).2.namesAt node = tree.namesAt node :=
  namesAt_getOrCreateFrom tree root (Path.segments path) node

theorem namesAt_modifyNames {node : Nat} (inside : node < tree.nodes.length)
    (change : NamespaceNames → NamespaceNames) (other : Nat) :
    (tree.modifyNames node change).namesAt other =
      if node = other then change (tree.namesAt other) else tree.namesAt other := by
  simp only [namesAt, names?_modifyNames]
  split
  · rename_i here
    subst here
    simp [names?, inside]
  · rfl

/-- What every registration keeps: the tree stays well-formed, and paths lead where they led. -/
structure KeepsPaths (tree tree' : NamespaceTree) : Prop where
  wellFormed : tree.WellFormed → tree'.WellFormed
  getPath : ∀ path node, tree.getPath? path = some node → tree'.getPath? path = some node

namespace KeepsPaths

/-- Names and imports are not part of any path. -/
theorem of_places (same : tree'.places = tree.places) : tree.KeepsPaths tree' where
  wellFormed wf := wf.congr same
  getPath _ _ found := (walk?_congr same _ _).trans found

theorem trans {tree'' : NamespaceTree} (first : tree.KeepsPaths tree')
    (second : tree'.KeepsPaths tree'') : tree.KeepsPaths tree'' where
  wellFormed wf := second.wellFormed (first.wellFormed wf)
  getPath path node found := second.getPath path node (first.getPath path node found)

theorem getOrCreatePath (tree : NamespaceTree) (path : String) :
    tree.KeepsPaths (tree.getOrCreatePath path).2 where
  wellFormed wf := (wf.getOrCreatePath path).1
  getPath _ _ found := walk?_of_prefix (tree.getOrCreateFrom_spec root (Path.segments path)).1 found

end KeepsPaths

end NamespaceTree

namespace Registry

variable {r r' : Registry} {f : FunctionDecl} {fs : List FunctionDecl}

theorem keepsPaths_file (r : Registry) (path : String) (change : NamespaceNames → NamespaceNames) :
    r.namespaces.KeepsPaths (r.file path change).namespaces := by
  rw [file_namespaces]
  exact (NamespaceTree.KeepsPaths.getOrCreatePath r.namespaces path).trans
    (.of_places (NamespaceTree.places_modifyNames _ _ _))

/-- The names under one path are changed, and every other namespace has the names it had. -/
theorem namesAt_file (wf : r.namespaces.WellFormed) (path : String)
    (change : NamespaceNames → NamespaceNames) (node : Nat) :
    (r.file path change).namespaces.namesAt node =
      if r.site path = node then change (r.namespaces.namesAt node)
      else r.namespaces.namesAt node := by
  have inside := (wf.getOrCreatePath path).2.1
  rw [file_namespaces, NamespaceTree.namesAt_modifyNames inside,
    NamespaceTree.namesAt_getOrCreatePath]
  rfl

theorem HasSpace.later (space : r.HasSpace f) (keeps : r.namespaces.KeepsPaths r'.namespaces) :
    r'.HasSpace f := by
  intro unowned scripted
  obtain ⟨node, found⟩ := Option.isSome_iff_exists.mp (space unowned scripted)
  rw [keeps.getPath _ _ found]
  rfl

/-- Where a function belongs is settled as soon as its namespace exists. -/
theorem HasSpace.listOf?_eq (space : r.HasSpace f)
    (keeps : r.namespaces.KeepsPaths r'.namespaces) : r'.listOf? f = r.listOf? f := by
  unfold listOf?
  split
  · rfl
  · rename_i unowned
    split
    · rfl
    · rename_i scripted
      have isThere := space unowned (by simpa using scripted)
      obtain ⟨node, found⟩ := Option.isSome_iff_exists.mp isThere
      rw [found, keeps.getPath _ _ found]

/-! ## Registrations that leave the lists alone -/

/-- No function was registered, and no list has changed. -/
structure Quiet (r r' : Registry) : Prop where
  keeps : r.namespaces.KeepsPaths r'.namespaces
  functions : r'.functions = r.functions
  lists : r.namespaces.WellFormed → ∀ list, r'.listed list = r.listed list

theorem Files.of_quiet (files : r.Files fs) (quiet : Quiet r r') : r'.Files fs where
  tree := quiet.keeps.wellFormed files.tree
  entries := by rw [quiet.functions, files.entries]
  distinct := files.distinct
  spaces f member := (files.spaces f member).later quiet.keeps
  lists list := by
    rw [quiet.lists files.tree, files.lists]
    congr 1
    refine List.filter_congr fun f member => ?_
    rw [(files.spaces f member).listOf?_eq quiet.keeps]

namespace Quiet

/-- Templates and variables stand in none of the lists. -/
theorem unlisted (r : Registry) (functionTemplates : Table TypeHash FunctionTemplate)
    (classTemplates : Table TypeHash ClassTemplate) (globals : Table TypeHash GlobalDecl) :
    Quiet r { r with functionTemplates, classTemplates, globals } where
  keeps := .of_places rfl
  functions := rfl
  lists _ list := by cases list <;> rfl

theorem refl (r : Registry) : Quiet r r := unlisted r _ _ _

theorem trans (a b c : Registry) (first : Quiet a b) (second : Quiet b c) : Quiet a c where
  keeps := first.keeps.trans second.keeps
  functions := second.functions.trans first.functions
  lists wf list := (second.lists (first.keeps.wellFormed wf) list).trans (first.lists wf list)

/-- Namespaces change, and each has the functions it had. -/
theorem of_namespaces {namespaces : NamespaceTree}
    (keeps : r.namespaces.KeepsPaths namespaces)
    (names : r.namespaces.WellFormed → ∀ node list,
      (namespaces.namesAt node).functionsIn list =
        (r.namespaces.namesAt node).functionsIn list) : Quiet r { r with namespaces } where
  keeps := keeps
  functions := rfl
  lists wf list := by
    cases list with
    | member | builtin => rfl
    | space node list => exact names wf node list

/-- Names of other things than functions are filed. -/
theorem file (path : String) {change : NamespaceNames → NamespaceNames}
    (keeps : ∀ names list, (change names).functionsIn list = names.functionsIn list) :
    Quiet r (r.file path change) := by
  apply of_namespaces (keepsPaths_file r path change)
  intro wf node list
  rw [namesAt_file wf]
  split
  · exact keeps _ list
  · rfl

/-- Types change, and every class has the members it had. -/
theorem of_types {types : Table TypeHash TypeDecl}
    (members : ∀ owner list, ({ r with types } : Registry).listed (.member owner list) =
      r.listed (.member owner list)) : Quiet r { r with types } where
  keeps := .of_places rfl
  functions := rfl
  lists _ list := by
    cases list with
    | member owner list => exact members owner list
    | space | builtin => rfl

theorem modifyClass (hash : TypeHash) {change : ClassDecl → ClassDecl}
    (keeps : ∀ c list, (change c).membersIn list = c.membersIn list) :
    Quiet r (r.modifyClass hash change) := by
  refine of_types fun owner list => ?_
  show ((r.modifyClass hash change).class? owner).elim [] _ = (r.class? owner).elim [] _
  rw [class?_modifyClass]
  split
  · cases r.class? owner with
    | none => rfl
    | some c => exact keeps c list
  · rfl

end Quiet

end Registry

/-- A class that is entered has no members yet. -/
def TypeDecl.Memberless (decl : TypeDecl) : Prop :=
  ∀ c, decl.class? = some c → ∀ list, c.membersIn list = []

namespace Registry

variable {r r' : Registry} {f : FunctionDecl} {fs : List FunctionDecl}

theorem quiet_enter {decl : TypeDecl} (free : r.type? decl.hash = none)
    (memberless : decl.Memberless) :
    Quiet r { r with types := r.types.insert decl.hash decl } := by
  refine .of_types fun owner list => ?_
  simp only [listed, class?, type?, Table.get?_insert]
  split
  · rename_i here
    -- Nothing was listed for the identity before, and nothing is now.
    subst here
    rw [type?] at free
    rw [free]
    cases isClass : decl.class? with
    | none => simp [isClass]
    | some c => simpa [isClass] using memberless c isClass list
  · rfl

theorem quiet_fileType (r : Registry) (decl : TypeDecl) : Quiet r (r.fileType decl) := by
  cases decl with
  | classType | enumType | closure => exact .file _ fun _ list => by cases list <;> rfl
  | fundamental | functionType | placeholder | pattern => exact .refl r

theorem quiet_registerType {decl : TypeDecl} (memberless : decl.Memberless) :
    Respects Quiet (registerType decl) := by
  intro r
  rw [exec_registerType]
  cases free : r.type? decl.hash with
  | some existing => exact .refl r
  | none =>
    -- The name is filed first, which leaves the identity free.
    have entered : Quiet (r.fileType decl) (r.addType decl) := by
      rw [addType, ← fileType_types r decl]
      refine quiet_enter ?_ memberless
      rw [type?, fileType_types]
      exact free
    exact .trans _ _ _ (quiet_fileType r decl) entered

theorem quiet_intern {decl : TypeDecl} (memberless : decl.Memberless) (r : Registry) :
    Quiet r (r.intern decl) := by
  unfold intern
  split
  · exact .refl r
  · rename_i absent
    apply quiet_enter _ memberless
    simpa [Table.contains, type?] using absent

theorem quiet_registerPlaceholders (ps : List Placeholder) :
    Respects Quiet (registerPlaceholders ps) :=
  registerPlaceholders_respects .refl .trans
    (fun _ => quiet_registerType fun _ isClass => by cases isClass) ps

theorem quiet_registerClassTemplate (t : ClassTemplate) :
    Respects Quiet (registerClassTemplate t) := by
  intro r
  have placeholders := quiet_registerPlaceholders t.placeholders r
  rw [exec_registerClassTemplate]
  split
  · exact .refl r
  · rcases ran : exec (registerPlaceholders t.placeholders) r with ⟨e | _, placed⟩
    · rw [ran] at placeholders
      exact placeholders
    · rw [ran] at placeholders
      have filed : Quiet placed (placed.file t.path (fileClassTemplate t)) :=
        .file _ fun _ list => by cases list <;> rfl
      exact .trans _ _ _ placeholders (.trans _ _ _ filed (.unlisted _ _ _ _))

theorem quiet_registerFunctionTemplate (t : FunctionTemplate) :
    Respects Quiet (registerFunctionTemplate t) := by
  intro r
  have placeholders := quiet_registerPlaceholders t.placeholders r
  rw [exec_registerFunctionTemplate]
  split
  · exact .refl r
  · rcases ran : exec (registerPlaceholders t.placeholders) r with ⟨e | _, placed⟩
    · rw [ran] at placeholders
      exact placeholders
    · rw [ran] at placeholders
      refine .trans _ _ _ placeholders ?_
      cases t.owner with
      | none =>
        have filed : Quiet placed (placed.file t.path (fileFunctionTemplate t)) :=
          .file _ fun _ list => by cases list <;> rfl
        exact .trans _ _ _ filed (.unlisted _ _ _ _)
      | some owner =>
        simp only []
        split
        · exact .refl placed
        · -- Member templates have a list of their own.
          have filed : Quiet placed (placed.modifyClass owner fun c =>
              { c with memberTemplates := c.memberTemplates ++ [t.hash] }) :=
            .modifyClass owner fun _ list => by cases list <;> rfl
          exact .trans _ _ _ filed (.unlisted _ _ _ _)

theorem quiet_registerGlobal (g : GlobalDecl) : Respects Quiet (registerGlobal g) := by
  intro r
  rw [exec_registerGlobal]
  split
  · exact .refl r
  · have filed : Quiet r (r.file g.path (fileGlobal g)) :=
      .file _ fun _ list => by cases list <;> rfl
    exact .trans _ _ _ filed (.unlisted _ _ _ _)

theorem quiet_addUsing (source target : String) : Respects Quiet (addUsing source target) := by
  intro r
  rw [exec_addUsing]
  split
  · exact .refl r
  · -- An import is no name.
    have created := NamespaceTree.KeepsPaths.getOrCreatePath r.namespaces source
    refine .of_namespaces (created.trans (.of_places (NamespaceTree.places_addUsing _ _ _))) ?_
    intro _ node list
    rw [NamespaceTree.namesAt, NamespaceTree.names?_addUsing, ← NamespaceTree.namesAt,
      NamespaceTree.namesAt_getOrCreatePath]

/-! ## Functions -/

/-- A function was registered and filed at the end of the list that it belongs in. -/
structure Takes (f : FunctionDecl) (r r' : Registry) : Prop where
  keeps : r.namespaces.KeepsPaths r'.namespaces
  free : r.function? f.hash = none
  functions : r'.functions = r.functions.insert f.hash f
  space : r'.HasSpace f
  lists : r.namespaces.WellFormed → ∀ list,
    r'.listed list = r.listed list ++ if r'.listOf? f = some list then [f.hash] else []

theorem Files.concat (files : r.Files fs) (takes : Takes f r r') : r'.Files (fs ++ [f]) where
  tree := takes.keeps.wellFormed files.tree
  entries := by
    rw [takes.functions, Table.entries_insert_of_absent takes.free, files.entries, List.map_append]
    rfl
  distinct := by
    rw [List.map_append, List.nodup_append]
    refine ⟨files.distinct, List.nodup_singleton _, ?_⟩
    intro hash taken other isNew same
    -- A function with the same identity would be found under it.
    obtain ⟨g, member, rfl⟩ := List.mem_map.mp taken
    rw [List.map_singleton, List.mem_singleton] at isNew
    apply (Table.get?_eq_none_iff _ _).mp takes.free (g.hash, g)
    · rw [files.entries]
      exact List.mem_map_of_mem member
    · exact same.trans isNew
  spaces g member := by
    rcases List.mem_append.mp member with old | isNew
    · exact (files.spaces g old).later takes.keeps
    · rw [List.mem_singleton.mp isNew]
      exact takes.space
  lists list := by
    have old : fs.filter (fun g => r'.listOf? g = some list) =
        fs.filter fun g => r.listOf? g = some list :=
      List.filter_congr fun g member => by rw [(files.spaces g member).listOf?_eq takes.keeps]
    rw [takes.lists files.tree, files.lists, List.filter_append, List.map_append, old]
    by_cases here : r'.listOf? f = some list <;> simp [here]

theorem membersIn_fileMember (f : FunctionDecl) (c : ClassDecl) (list : MemberList) :
    (fileMember f c).membersIn list =
      c.membersIn list ++ if f.memberList? = some list then [f.hash] else [] := by
  unfold fileMember FunctionDecl.memberList?
  cases f.kind <;> cases list <;> simp [ClassDecl.membersIn]

theorem functionsIn_fileFree (f : FunctionDecl) (names : NamespaceNames) (list : SpaceList) :
    (fileFree f names).functionsIn list =
      names.functionsIn list ++ if f.spaceList? = some list then [f.hash] else [] := by
  unfold fileFree FunctionDecl.spaceList?
  cases list with
  | operators op =>
    cases f.kind with
    | operator own =>
      simp only [NamespaceNames.functionsIn, Table.get?_push, Option.some.injEq,
        SpaceList.operators.injEq]
      by_cases same : op = own
      · simp [same]
      · simp [same, Ne.symm same]
    | regular | constructor | destructor | cast | templateInstance =>
      simp [NamespaceNames.functionsIn]
  | overloads name =>
    cases f.kind with
    | operator | templateInstance => simp [NamespaceNames.functionsIn]
    | regular | constructor | destructor | cast =>
      simp only [NamespaceNames.functionsIn, Table.get?_push, Option.some.injEq,
        SpaceList.overloads.injEq]
      by_cases same : name = f.name
      · simp [same]
      · simp [same, Ne.symm same]

/-- A member goes to its class. -/
theorem takes_member {owner : TypeHash} (free : r.function? f.hash = none)
    (owned : f.owner = some owner) (known : (r.class? owner).isSome) :
    Takes f r ((r.modifyClass owner (fileMember f)).addFunction f) where
  keeps := .of_places rfl
  free := free
  functions := rfl
  space unowned := by simp [owned] at unowned
  lists _ list := by
    simp only [listOf?, owned]
    cases list with
    | space | builtin => simp [listed, addFunction, modifyClass, builtins]
    | member other list =>
      show ((r.modifyClass owner (fileMember f)).class? other).elim [] _ = _
      rw [listed, class?_modifyClass]
      by_cases same : other = owner
      · subst same
        obtain ⟨c, found⟩ := Option.isSome_iff_exists.mp known
        simp [found, membersIn_fileMember]
      · simp [same, Ne.symm same]

/-- A built-in operator goes to the operators of its kind. A built-in function that is no operator
goes nowhere. -/
theorem takes_builtin (free : r.function? f.hash = none) (unowned : f.owner = none)
    (builtin : f.traits.isBuiltin = true) : Takes f r ((r.fileUnowned f).addFunction f) := by
  have listIs : ∀ r : Registry, r.listOf? f = f.operator?.map .builtin := by
    intro r
    simp [listOf?, unowned, builtin]
  have space : ∀ r : Registry, r.HasSpace f := by
    intro r _ scripted
    simp [builtin] at scripted
  rw [fileUnowned, if_pos builtin]
  cases isOperator : f.operator? with
  | none =>
    refine ⟨.of_places rfl, free, rfl, space _, ?_⟩
    intro _ list
    rw [listIs, isOperator]
    cases list <;> simp [listed, addFunction, class?, type?, builtins]
  | some op =>
    refine ⟨.of_places rfl, free, rfl, space _, ?_⟩
    intro _ list
    rw [listIs, isOperator]
    cases list with
    | member | space => simp [listed, addFunction, class?, type?]
    | builtin other =>
      simp only [listed, builtins, addFunction, Table.get?_push]
      by_cases same : other = op
      · simp [same]
      · simp [same, Ne.symm same]

/-- A free function goes to the namespace of its path. -/
theorem takes_free (free : r.function? f.hash = none) (unowned : f.owner = none)
    (scripted : f.traits.isBuiltin = false) : Takes f r ((r.fileUnowned f).addFunction f) := by
  rw [fileUnowned, if_neg (by simp [scripted])]
  have found : (r.file f.path (fileFree f)).namespaces.getPath? f.path = some (r.site f.path) := by
    rw [file_namespaces, NamespaceTree.getPath?_modifyNames,
      NamespaceTree.getPath?_getOrCreatePath]
    rfl
  refine ⟨keepsPaths_file r f.path (fileFree f), free, rfl, ?_, ?_⟩
  · intro _ _
    show ((r.file f.path (fileFree f)).namespaces.getPath? f.path).isSome
    rw [found]
    rfl
  · intro wf list
    have listIs : ((r.file f.path (fileFree f)).addFunction f).listOf? f =
        f.spaceList?.map (.space (r.site f.path)) := by
      simp [listOf?, unowned, scripted, addFunction, found]
    rw [listIs]
    cases list with
    | member | builtin => simp [listed, addFunction, Registry.file, class?, type?, builtins]
    | space node list =>
      show ((r.file f.path (fileFree f)).namespaces.namesAt node).functionsIn list = _
      rw [namesAt_file wf]
      by_cases here : r.site f.path = node
      · simp [here, listed, functionsIn_fileFree]
      · simp [here, listed]

theorem takes_registerFunction {hash : TypeHash}
    (ran : exec (registerFunction f) r = (.ok hash, r')) : Takes f r r' := by
  rw [exec_registerFunction] at ran
  split at ran
  · cases ran
  · rename_i absent
    have free : r.function? f.hash = none := by simpa [Table.contains, function?] using absent
    cases owned : f.owner with
    | none =>
      simp only [owned] at ran
      cases ran
      cases builtin : f.traits.isBuiltin with
      | true => exact takes_builtin free owned builtin
      | false => exact takes_free free owned builtin
    | some owner =>
      simp only [owned] at ran
      split at ran
      · cases ran
      · rename_i known
        cases ran
        exact takes_member free owned (by simpa [Option.isSome_iff_ne_none] using known)

/-! ## What the lists say -/

namespace Files

/-- Each function is found under its identity, and nothing else is. -/
theorem function?_eq_some_iff (files : r.Files fs) (hash : TypeHash) (f : FunctionDecl) :
    r.function? hash = some f ↔ f ∈ fs ∧ f.hash = hash := by
  constructor
  · intro found
    have entry := Table.mem_entries_of_get? found
    rw [files.entries] at entry
    obtain ⟨g, member, same⟩ := List.mem_map.mp entry
    cases same
    exact ⟨member, rfl⟩
  · intro ⟨member, same⟩
    subst same
    rw [function?, Table.get?, files.entries, List.lookup_eq_some_iff]
    -- The functions before it have other identities.
    obtain ⟨before, after, split⟩ := List.append_of_mem member
    have distinct := files.distinct
    rw [split, List.map_append, List.nodup_append] at distinct
    refine ⟨before.map fun g => (g.hash, g), after.map fun g => (g.hash, g), by simp [split], ?_⟩
    intro entry earlier
    obtain ⟨g, isBefore, rfl⟩ := List.mem_map.mp earlier
    have differs := distinct.2.2 g.hash (List.mem_map_of_mem isBefore) f.hash (by simp)
    simpa using differs.symm

/-- A function stands in the list that it belongs in, and in no other. -/
theorem mem_listed_iff (files : r.Files fs) (member : f ∈ fs) (list : FunctionList) :
    f.hash ∈ r.listed list ↔ r.listOf? f = some list := by
  rw [files.lists, List.mem_map]
  constructor
  · intro ⟨g, kept, same⟩
    obtain ⟨isListed, belongs⟩ := List.mem_filter.mp kept
    rw [List.inj_on_of_nodup_map files.distinct isListed member same] at belongs
    simpa using belongs
  · intro belongs
    exact ⟨f, List.mem_filter.mpr ⟨member, by simpa using belongs⟩, rfl⟩

theorem nodup_listed (files : r.Files fs) (list : FunctionList) : (r.listed list).Nodup := by
  rw [files.lists]
  exact files.distinct.sublist (List.filter_sublist.map _)

theorem isSome_of_mem_listed (files : r.Files fs) {list : FunctionList} {hash : TypeHash}
    (member : hash ∈ r.listed list) : (r.function? hash).isSome := by
  rw [files.lists] at member
  obtain ⟨f, kept, rfl⟩ := List.mem_map.mp member
  rw [(files.function?_eq_some_iff f.hash f).mpr ⟨(List.mem_filter.mp kept).1, rfl⟩]
  rfl

/-- What a class lists are its own functions of the kind of the list. -/
theorem listed_member (files : r.Files fs) (owner : TypeHash) (list : MemberList) :
    r.listed (.member owner list) =
      (fs.filter fun f => f.owner = some owner ∧ f.memberList? = some list).map
        FunctionDecl.hash := by
  rw [files.lists]
  congr 1
  refine List.filter_congr fun f member => decide_eq_decide.mpr ?_
  unfold listOf?
  split
  · rename_i other owned
    simp [owned, and_comm]
  · rename_i unowned
    rw [unowned]
    split
    · simp
    · simp [Option.bind_eq_some_iff]

/-- Identities of registered functions lead back to the functions. -/
theorem registered_map_hash (files : r.Files fs) {gs : List FunctionDecl} (known : gs ⊆ fs) :
    r.registered (gs.map FunctionDecl.hash) = gs := by
  have found : ∀ g ∈ gs, (r.function? ∘ FunctionDecl.hash) g = some g := by
    intro g member
    exact (files.function?_eq_some_iff g.hash g).mpr ⟨known member, rfl⟩
  rw [registered, List.filterMap_map, List.filterMap_congr found, List.filterMap_some]

theorem registered_listed_member (files : r.Files fs) (owner : TypeHash) (list : MemberList) :
    r.registered (r.listed (.member owner list)) =
      fs.filter fun f => f.owner = some owner ∧ f.memberList? = some list := by
  rw [files.listed_member]
  exact files.registered_map_hash (List.filter_subset_self fs)

/-- What a class lists is registered. -/
theorem membersIn_eq_map (files : r.Files fs) {owner : TypeHash} {c : ClassDecl}
    (found : r.class? owner = some c) (list : MemberList) :
    c.membersIn list =
      (r.registered (r.listed (.member owner list))).map FunctionDecl.hash := by
  rw [files.registered_listed_member, ← files.listed_member, listed, found]
  rfl

/-- A free function that is not built in belongs in the namespace of its path. -/
theorem exists_node (files : r.Files fs) (member : f ∈ fs) (unowned : f.owner = none)
    (scripted : f.traits.isBuiltin = false) :
    ∃ node, r.namespaces.getPath? f.path = some node ∧ ∀ list other,
      f.spaceList? = some list → (f.hash ∈ r.listed (.space other list) ↔ other = node) := by
  obtain ⟨node, found⟩ :=
    Option.isSome_iff_exists.mp (files.spaces f member unowned scripted)
  refine ⟨node, found, fun list other belongs => ?_⟩
  rw [files.mem_listed_iff member]
  simp [listOf?, unowned, scripted, found, belongs, eq_comm]

theorem mem_builtins (files : r.Files fs) (member : f ∈ fs) (unowned : f.owner = none)
    (builtin : f.traits.isBuiltin = true) {op : OperatorKind} (isOperator : f.operator? = some op) :
    f.hash ∈ r.builtins op := by
  apply (files.mem_listed_iff member (.builtin op)).mpr
  simp [listOf?, unowned, builtin, isOperator]

/-- Instances of templates belong in no list. -/
theorem not_mem_listed (files : r.Files fs) (member : f ∈ fs)
    (isInstance : f.isTemplateInstance = true) (list : FunctionList) :
    f.hash ∉ r.listed list := by
  have nowhere : r.listOf? f = none := by
    unfold FunctionDecl.isTemplateInstance at isInstance
    unfold listOf? FunctionDecl.memberList? FunctionDecl.operator? FunctionDecl.spaceList?
    cases kind : f.kind <;> simp [kind] at isInstance
    cases f.owner <;> simp
  rw [files.mem_listed_iff member, nowhere]
  simp

end Files

end Registry

/-! ## Histories -/

namespace FunctionDecl

theorem memberList?_eq_constructors_iff (f : FunctionDecl) :
    f.memberList? = some .constructors ↔ f.kind = .constructor := by
  unfold memberList?
  cases f.kind <;> simp

theorem memberList?_eq_casts_iff (f : FunctionDecl) :
    f.memberList? = some .casts ↔ f.kind = .cast := by
  unfold memberList?
  cases f.kind <;> simp

theorem memberList?_eq_methods_iff (f : FunctionDecl) :
    f.memberList? = some .methods ↔ f.kind = .regular ∨ f.operator?.isSome := by
  unfold memberList? operator?
  cases f.kind <;> simp

theorem spaceList?_of_operator? {f : FunctionDecl} {op : OperatorKind}
    (isOperator : f.operator? = some op) : f.spaceList? = some (.operators op) := by
  unfold operator? at isOperator
  unfold spaceList?
  cases kind : f.kind <;> simp_all

theorem spaceList?_of_named {f : FunctionDecl} (noOperator : f.operator? = none)
    (noInstance : f.isTemplateInstance = false) : f.spaceList? = some (.overloads f.name) := by
  unfold operator? at noOperator
  unfold isTemplateInstance at noInstance
  unfold spaceList?
  cases kind : f.kind <;> simp_all

end FunctionDecl

namespace RegistryOp

variable {r r' : Registry} {fs : List FunctionDecl}

/-- The operation registers something. Nothing is taken out or replaced, and classes enter without
members. -/
def Registers : RegistryOp → Prop
  | registerType decl | intern decl => decl.Memberless
  | removeType _ | removeFunction _ | updateFunction _ => False
  | _ => True

/-- The function that an operation registers. -/
def function? : RegistryOp → Option FunctionDecl
  | registerFunction f => some f
  | _ => none

/-- The functions that are registered by a sequence of operations, in their order. -/
def functions (ops : List RegistryOp) : List FunctionDecl := ops.filterMap function?

theorem quiet_run {op : RegistryOp} (registers : op.Registers) (other : op.function? = none)
    (r : Registry) : Registry.Quiet r (op.run r) := by
  cases op with
  | registerType decl => exact Registry.quiet_registerType registers r
  | intern decl => exact Registry.quiet_intern registers r
  | registerFunctionTemplate t => exact Registry.quiet_registerFunctionTemplate t r
  | registerClassTemplate t => exact Registry.quiet_registerClassTemplate t r
  | registerGlobal g => exact Registry.quiet_registerGlobal g r
  | addUsing source target => exact Registry.quiet_addUsing source target r
  | setFunctionBackend | setClassBackend => exact .unlisted r _ _ _
  | registerFunction f => cases other
  | removeType | removeFunction | updateFunction => exact registers.elim

/-- One accepted registration. -/
theorem files_action {op : RegistryOp} (files : r.Files fs) (registers : op.Registers)
    (accepted : exec op.action r = (.ok ⟨⟩, r')) : r'.Files (fs ++ op.function?.toList) := by
  cases isFunction : op.function? with
  | some f =>
    cases op with
    | registerFunction g =>
      cases isFunction
      obtain ⟨_, ran⟩ := exec_eq_ok_of_discard accepted
      exact files.concat (Registry.takes_registerFunction ran)
    | _ => cases isFunction
  | none =>
    have after : r' = op.run r := by rw [← exec_action_snd, accepted]
    rw [after, Option.toList_none, List.append_nil]
    exact files.of_quiet (quiet_run registers isFunction r)

/-- A history of accepted registrations. -/
theorem files_forM {ops : List RegistryOp} (files : r.Files fs)
    (registers : ∀ op ∈ ops, op.Registers) (ran : exec (ops.forM action) r = (.ok ⟨⟩, r')) :
    r'.Files (fs ++ functions ops) := by
  induction ops generalizing r fs with
  | nil =>
    cases ran
    rw [functions, List.filterMap_nil, List.append_nil]
    exact files
  | cons op ops ih =>
    obtain ⟨_, next, first, rest⟩ := exec_bind_eq_ok ran
    have step := files_action files (registers op List.mem_cons_self) first
    have run := ih step (fun other member => registers other (List.mem_cons_of_mem _ member)) rest
    have split : functions (op :: ops) = op.function?.toList ++ functions ops := by
      cases isFunction : op.function? <;> simp [functions, isFunction]
    rw [split, ← List.append_assoc]
    exact run

theorem files_empty : ({} : Registry).Files [] where
  tree := .new
  entries := rfl
  distinct := List.nodup_nil
  spaces _ member := by cases member
  lists list := by
    cases list with
    | member | builtin => rfl
    | space node list =>
      simp only [Registry.listed, NamespaceTree.namesAt, NamespaceTree.names?]
      cases node <;> cases list <;> rfl

/-- **Every function is filed once.** After any history of accepted registrations, each function is
found under its own identity. The constructors, casts and methods of a class are the functions of
that class with the kind in question, in the order of their registration. A free function stands in
the namespace of its path and in no other, as an operator or under its name; a built-in operator
stands among the built-in ones. Instances of templates stand nowhere. No list holds anything twice
or anything that is not registered, and no function stands in two lists. -/
theorem functions_filed_once {ops : List RegistryOp} (registers : ∀ op ∈ ops, op.Registers)
    (ran : exec (ops.forM action) {} = (.ok ⟨⟩, r)) :
    (∀ hash f, r.function? hash = some f ↔ f ∈ functions ops ∧ f.hash = hash) ∧
      (∀ owner,
        r.constructors owner =
            (functions ops).filter (fun f => f.owner = some owner ∧ f.kind = .constructor) ∧
          r.casts owner = (functions ops).filter (fun f => f.owner = some owner ∧ f.kind = .cast) ∧
          r.methods owner = (functions ops).filter (fun f =>
            f.owner = some owner ∧ (f.kind = .regular ∨ f.operator?.isSome))) ∧
      (∀ owner c, r.class? owner = some c →
        c.constructors = (r.constructors owner).map FunctionDecl.hash ∧
          c.casts = (r.casts owner).map FunctionDecl.hash ∧
          c.methods = (r.methods owner).map FunctionDecl.hash) ∧
      (∀ f ∈ functions ops, f.owner = none → f.traits.isBuiltin = false →
        ∃ node, r.namespaces.getPath? f.path = some node ∧
          (∀ op, f.operator? = some op → ∀ other,
            f.hash ∈ r.listed (.space other (.operators op)) ↔ other = node) ∧
          (f.operator? = none → f.isTemplateInstance = false → ∀ other,
            f.hash ∈ r.listed (.space other (.overloads f.name)) ↔ other = node)) ∧
      (∀ f ∈ functions ops, f.owner = none → f.traits.isBuiltin = true →
        ∀ op, f.operator? = some op → f.hash ∈ r.builtins op) ∧
      (∀ f ∈ functions ops, f.isTemplateInstance = true → ∀ list, f.hash ∉ r.listed list) ∧
      (∀ list, (r.listed list).Nodup ∧ ∀ hash ∈ r.listed list, (r.function? hash).isSome) ∧
      ∀ f ∈ functions ops, ∀ list other,
        f.hash ∈ r.listed list → f.hash ∈ r.listed other → other = list := by
  have files : r.Files (functions ops) := files_forM files_empty registers ran
  refine ⟨files.function?_eq_some_iff, ?_, ?_, ?_, ?_, ?_, ?_, ?_⟩
  · intro owner
    simp only [← FunctionDecl.memberList?_eq_constructors_iff,
      ← FunctionDecl.memberList?_eq_casts_iff, ← FunctionDecl.memberList?_eq_methods_iff]
    exact ⟨files.registered_listed_member owner .constructors,
      files.registered_listed_member owner .casts, files.registered_listed_member owner .methods⟩
  · intro owner c found
    exact ⟨files.membersIn_eq_map found .constructors, files.membersIn_eq_map found .casts,
      files.membersIn_eq_map found .methods⟩
  · intro f member unowned scripted
    obtain ⟨node, found, lists⟩ := files.exists_node member unowned scripted
    refine ⟨node, found, ?_, ?_⟩
    · intro op isOperator other
      exact lists _ other (FunctionDecl.spaceList?_of_operator? isOperator)
    · intro noOperator noInstance other
      exact lists _ other (FunctionDecl.spaceList?_of_named noOperator noInstance)
  · intro f member unowned builtin op isOperator
    exact files.mem_builtins member unowned builtin isOperator
  · intro f member isInstance
    exact files.not_mem_listed member isInstance
  · intro list
    exact ⟨files.nodup_listed list, fun hash member => files.isSome_of_mem_listed member⟩
  · intro f member list other inList inOther
    rw [files.mem_listed_iff member] at inList inOther
    exact Option.some.inj (inOther.symm.trans inList)

/-! The built-in declarations are entered by such a history too, so that a history may as well start
behind them. -/

/-- The operations that enter the built-in declarations. -/
def installation : List RegistryOp :=
  FundamentalKind.all.map (fun kind => registerType (.fundamental kind)) ++
    registerClassTemplate Registry.listTemplate :: Registry.operatorTable.map registerFunction

theorem registers_installation : ∀ op ∈ installation, op.Registers := by
  intro op member
  simp only [installation, List.mem_append, List.mem_cons, List.mem_map] at member
  rcases member with ⟨kind, -, rfl⟩ | rfl | ⟨f, -, rfl⟩
  · intro c isClass
    cases isClass
  · exact trivial
  · exact trivial

theorem exec_installation :
    exec (installation.forM action) {} = (.ok ⟨⟩, Registry.withBuiltins) := by
  have accepted : (exec (installation.forM action) {}).1.toOption.isSome := by decide +kernel
  have same : installation.forM action = Registry.install := by
    simp only [installation, Registry.install, List.forM_eq_forM, List.forM_append, List.forM_cons,
      List.forM_map, action]
  rw [same] at accepted ⊢
  rcases ran : exec Registry.install {} with ⟨e | _, after⟩
  · rw [ran] at accepted
    cases accepted
  · have left : Registry.withBuiltins = after := congrArg Prod.snd ran
    rw [left]

/-! A class with members of every kind, a free operator in its namespace, and an instance of some
function template. -/

def meter : ClassDecl := .declare "app" "Meter"

def meterFrom : FunctionDecl := .constructor meter.hash [{ dataType := .ofKind .int }]

def meterValue : FunctionDecl := .cast meter.hash (.ofKind .int)

def meterReset : FunctionDecl := .method meter.hash "reset" [] .void

def meterSum : FunctionDecl :=
  .memberOperator meter.hash .add [{ dataType := .simple meter.hash }] (.simple meter.hash)

def meterDifference : FunctionDecl :=
  .freeOperator "app" .sub [{ dataType := .simple meter.hash }, { dataType := .simple meter.hash }]
    (.simple meter.hash)

def meterInstance : FunctionDecl :=
  .templateInstance (.ofName "app::convert") [] "convert" "app" none [] (.simple meter.hash)

def metering : List RegistryOp :=
  registerType (.classType meter) ::
    [meterReset, meterFrom, meterDifference, .destructor meter.hash, meterSum, meterValue,
      meterInstance].map registerFunction

/-- The class lists two methods in the order of their registration, next to its constructor and its
cast. The free operator stands in one namespace, and the instance nowhere. -/
theorem functions_filed_once_metering :
    ∃ after, exec (metering.forM action) .withBuiltins = (.ok ⟨⟩, after) ∧
      after.constructors meter.hash = [meterFrom] ∧
      after.casts meter.hash = [meterValue] ∧
      after.methods meter.hash = [meterReset, meterSum] ∧
      (∃ node, after.namespaces.getPath? "app" = some node ∧ ∀ other,
        meterDifference.hash ∈ after.listed (.space other (.operators .sub)) ↔ other = node) ∧
      ∀ list, meterInstance.hash ∉ after.listed list := by
  have registers : ∀ op ∈ installation ++ metering, op.Registers := by
    intro op member
    rcases List.mem_append.mp member with builtin | own
    · exact registers_installation op builtin
    · simp only [metering, List.mem_cons, List.mem_map] at own
      rcases own with rfl | ⟨f, -, rfl⟩
      · intro c isClass list
        cases isClass
        cases list <;> rfl
      · exact trivial
  have accepted : (exec (metering.forM action) .withBuiltins).1.toOption.isSome := by
    decide +kernel
  rcases ran : exec (metering.forM action) .withBuiltins with ⟨e | _, after⟩
  · rw [ran] at accepted
    cases accepted
  · have whole : exec ((installation ++ metering).forM action) {} = (.ok ⟨⟩, after) := by
      rw [List.forM_eq_forM, List.forM_append, ← List.forM_eq_forM, exec_bind_ok exec_installation]
      exact ran
    obtain ⟨-, members, -, free, -, instances, -⟩ := functions_filed_once registers whole
    obtain ⟨constructors, casts, methods⟩ := members meter.hash
    obtain ⟨node, found, operators, -⟩ :=
      free meterDifference (by decide +kernel) rfl rfl
    refine ⟨after, rfl, constructors.trans ?_, casts.trans ?_, methods.trans ?_,
      ⟨node, found, operators .sub rfl⟩, instances meterInstance ?_ rfl⟩
    · decide +kernel
    · decide +kernel
    · decide +kernel
    · decide +kernel

end RegistryOp

end ScriptSemantics
