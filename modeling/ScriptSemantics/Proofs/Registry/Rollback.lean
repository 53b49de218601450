import Mathlib.Data.List.Nodup
import ScriptSemantics.Proofs.Namespace.Paths
import ScriptSemantics.Proofs.Registry.Changes

/-!
# Taking a Class Out Again

A class is registered, some members are registered after it, and the class is taken out again. This
file computes what is left: `Registry.rolledBack`. The table of types is as before. Among the
functions remain the members that the class does not list, which are destructors and template
instances. In the namespace of the class its name is no longer bound, whether or not it was bound to
something else before.
-/

namespace ScriptSemantics

/-! ## Tables -/

namespace Table

variable {κ α : Type} [DecidableEq κ]

theorem erase_modify (table : Table κ α) (key : κ) (change : α → α) :
    (table.modify key change).erase key = table.erase key := by
  obtain ⟨entries⟩ := table
  simp only [modify, erase, mk.injEq]
  induction entries with
  | nil => rfl
  | cons entry rest ih =>
    by_cases h : entry.1 = key
    · simpa [h] using ih
    · simpa [h] using ih

/-- Whatever was entered under a key is gone when the key is. -/
theorem erase_insert (table : Table κ α) (key : κ) (value : α) :
    (table.insert key value).erase key = table.erase key := by
  unfold insert
  split
  · exact erase_modify table key _
  · simp [erase]

theorem get?_eq_none_iff (table : Table κ α) (key : κ) :
    table.get? key = none ↔ ∀ entry ∈ table.entries, entry.1 ≠ key := by
  rw [get?, List.lookup_eq_none_iff]
  constructor
  · intro h entry member same
    exact bne_iff_ne.1 (h entry member) same.symm
  · intro h entry member
    exact bne_iff_ne.2 (h entry member).symm

theorem erase_eq_self_iff (table : Table κ α) (key : κ) :
    table.erase key = table ↔ table.get? key = none := by
  obtain ⟨entries⟩ := table
  rw [get?_eq_none_iff, erase, mk.injEq, List.filter_eq_self]
  simp

/-- A key that is not present is entered at the end. -/
theorem entries_insert_of_absent {table : Table κ α} {key : κ} (absent : table.get? key = none)
    (value : α) : (table.insert key value).entries = table.entries ++ [(key, value)] := by
  simp [insert, contains, absent]

theorem entries_foldl_erase (table : Table κ α) (keys : List κ) :
    (keys.foldl erase table).entries = table.entries.filter fun entry => entry.1 ∉ keys := by
  induction keys generalizing table with
  | nil => simp
  | cons key keys ih =>
    rw [List.foldl_cons, ih, erase, List.filter_filter]
    refine List.filter_congr fun entry _ => ?_
    simp only [List.mem_cons, not_or, Bool.decide_and, ne_eq]
    rw [Bool.and_comm]

end Table

/-! ## The name -/

namespace NamespaceTree

theorem modifyNames_modifyNames (tree : NamespaceTree) (node : Nat)
    (first second : NamespaceNames → NamespaceNames) :
    (tree.modifyNames node first).modifyNames node second =
      tree.modifyNames node (second ∘ first) := by
  simp only [modifyNames, mk.injEq, List.modify_modify_eq]
  rfl

/-- Names stay as they are exactly if the node is missing or its names are left alone. -/
theorem modifyNames_eq_self_iff (tree : NamespaceTree) (node : Nat)
    (change : NamespaceNames → NamespaceNames) :
    tree.modifyNames node change = tree ↔ ∀ names, tree.names? node = some names →
      change names = names := by
  constructor
  · intro same names found
    have after : (tree.modifyNames node change).names? node = some (change names) := by
      obtain ⟨n, here, rfl⟩ := Option.map_eq_some_iff.1 found
      simp [names?, modifyNames, here]
    rw [same, found] at after
    exact (Option.some.inj after).symm
  · intro alone
    obtain ⟨nodes⟩ := tree
    simp only [modifyNames, mk.injEq]
    refine List.ext_getElem? fun i => ?_
    rw [List.getElem?_modify]
    split
    · rename_i here
      subst here
      cases found : nodes[node]? with
      | none => rfl
      | some n =>
        have kept := alone n.names (by simp [names?, found])
        simp [kept]
    · cases nodes[i]? <;> rfl

end NamespaceTree

namespace Registry

/-- No name of a type, in a namespace. -/
def eraseTypeName (name : String) (names : NamespaceNames) : NamespaceNames :=
  { names with types := names.types.erase name }

/-- The namespace of a path exists and does not bind a name to a type. -/
def TypeNameFree (r : Registry) (path name : String) : Prop :=
  ∃ node, r.namespaces.getPath? path = some node ∧ r.typeIn? node name = none

theorem file_namespaces (r : Registry) (path : String)
    (change : NamespaceNames → NamespaceNames) :
    (r.file path change).namespaces =
      (r.namespaces.getOrCreatePath path).2.modifyNames (r.namespaces.getOrCreatePath path).1
        change := rfl

/-- Filing a name and taking it out again comes to taking it out. -/
theorem unfiled_file (r : Registry) (path name : String) (hash : TypeHash) :
    (r.file path fun names => { names with types := names.types.insert name hash }).unfiled path
        name = (r.file path (eraseTypeName name)).namespaces := by
  -- The path that was filed under is the path that is found again.
  have found : (r.file path fun names => { names with types := names.types.insert name hash
      }).namespaces.getPath? path = some (r.namespaces.getOrCreatePath path).1 := by
    rw [file_namespaces, NamespaceTree.getPath?_modifyNames,
      NamespaceTree.getPath?_getOrCreatePath]
  rw [unfiled, found]
  simp only []
  rw [file_namespaces, NamespaceTree.modifyNames_modifyNames, file_namespaces]
  congr 1
  funext names
  simp only [Function.comp_apply, eraseTypeName, Table.erase_insert]

/-- Taking a name out changes nothing exactly if the namespace is there and does not bind it. -/
theorem file_eraseTypeName_eq_iff (r : Registry) (path name : String) :
    (r.file path (eraseTypeName name)).namespaces = r.namespaces ↔ r.TypeNameFree path name := by
  rw [file_namespaces]
  cases found : r.namespaces.getPath? path with
  | none =>
    -- The missing namespaces were created, and they stay.
    have longer := NamespaceTree.length_lt_getOrCreateFrom found
    constructor
    · intro same
      have length := congrArg (fun tree : NamespaceTree => tree.nodes.length) same
      simp only [NamespaceTree.modifyNames, List.length_modify] at length
      rw [NamespaceTree.getOrCreatePath] at length
      omega
    · rintro ⟨node, here, -⟩
      rw [found] at here
      cases here
  | some node =>
    rw [NamespaceTree.getOrCreatePath_of_getPath? found, NamespaceTree.modifyNames_eq_self_iff]
    constructor
    · intro alone
      refine ⟨node, found, ?_⟩
      rw [typeIn?]
      cases here : r.namespaces.names? node with
      | none => rfl
      | some names =>
        have same : names.types.erase name = names.types :=
          congrArg NamespaceNames.types (alone names here)
        exact (Table.erase_eq_self_iff _ _).1 same
    · rintro ⟨other, here, unbound⟩ names bound
      rw [found] at here
      cases here
      rw [typeIn?, bound] at unbound
      rw [eraseTypeName, (Table.erase_eq_self_iff _ _).2 unbound]

end Registry

/-! ## The members -/

/-- The functions that go when the class goes. -/
def ClassDecl.listed (c : ClassDecl) : List TypeHash := c.constructors ++ c.casts ++ c.methods

/-- Whether a class lists this member, so that the member goes when the class goes. -/
def FunctionDecl.isListed (f : FunctionDecl) : Bool :=
  match f.kind with
  | .destructor | .templateInstance _ _ => false
  | .constructor | .cast | .regular | .operator _ => true

namespace Registry

/-- The members registered before the first one whose identity is taken. -/
def acceptedBy (functions : Table TypeHash FunctionDecl) : List FunctionDecl → List FunctionDecl
  | [] => []
  | f :: fs =>
    if functions.contains f.hash then [] else f :: acceptedBy (functions.insert f.hash f) fs

/-- Enter a member of the class with this identity. -/
def addMember (hash : TypeHash) (r : Registry) (f : FunctionDecl) : Registry :=
  (r.modifyClass hash (fileMember f)).addFunction f

/-- Enter members one after the other. -/
def withMembers (r : Registry) (hash : TypeHash) (fs : List FunctionDecl) : Registry :=
  fs.foldl (addMember hash) r

theorem mem_listed_fileMember (f : FunctionDecl) (c : ClassDecl) (h : TypeHash) :
    h ∈ (fileMember f c).listed ↔ h ∈ c.listed ∨ (f.isListed ∧ f.hash = h) := by
  unfold fileMember FunctionDecl.isListed ClassDecl.listed
  cases f.kind <;> simp [eq_comm] <;> tauto

theorem class?_addMember {r : Registry} {hash : TypeHash} {c : ClassDecl}
    (present : r.class? hash = some c) (f : FunctionDecl) :
    (addMember hash r f).class? hash = some (fileMember f c) := by
  show (r.modifyClass hash (fileMember f)).class? hash = _
  rw [class?_modifyClass, if_pos rfl, present]
  rfl

theorem fileMember_place (f : FunctionDecl) (c : ClassDecl) :
    (fileMember f c).path = c.path ∧ (fileMember f c).name = c.name := by
  unfold fileMember
  split <;> exact ⟨rfl, rfl⟩

variable {r : Registry} {hash : TypeHash} {fs : List FunctionDecl}

/-- The class gains the members it lists, and stays where it is. -/
theorem class?_withMembers {c : ClassDecl} (present : r.class? hash = some c) :
    ∃ c', (r.withMembers hash fs).class? hash = some c' ∧ c'.path = c.path ∧ c'.name = c.name ∧
      ∀ h, h ∈ c'.listed ↔ h ∈ c.listed ∨ ∃ f ∈ fs, f.isListed ∧ f.hash = h := by
  induction fs generalizing r c with
  | nil => exact ⟨c, present, rfl, rfl, by simp⟩
  | cons f fs ih =>
    obtain ⟨c', found, path, name, listed⟩ := ih (class?_addMember present f)
    refine ⟨c', found, path.trans (fileMember_place f c).1, name.trans (fileMember_place f c).2, ?_⟩
    intro h
    rw [listed, mem_listed_fileMember]
    simp only [List.mem_cons, exists_eq_or_imp, or_assoc]

/-- Besides the class and the functions everything is left alone. -/
theorem withMembers_eq (r : Registry) (hash : TypeHash) (fs : List FunctionDecl) :
    ∃ types, types.erase hash = r.types.erase hash ∧
      r.withMembers hash fs =
        { r with
          types := types
          functions := fs.foldl (fun functions f => functions.insert f.hash f) r.functions } := by
  induction fs generalizing r with
  | nil => exact ⟨r.types, rfl, rfl⟩
  | cons f fs ih =>
    obtain ⟨types, erased, members⟩ := ih (addMember hash r f)
    refine ⟨types, ?_, ?_⟩
    · rw [erased]
      exact Table.erase_modify r.types hash _
    · rw [withMembers, List.foldl_cons]
      exact members

theorem acceptedBy_fresh {functions : Table TypeHash FunctionDecl} {f : FunctionDecl}
    (member : f ∈ acceptedBy functions fs) : functions.get? f.hash = none := by
  induction fs generalizing functions with
  | nil => cases member
  | cons g fs ih =>
    rw [acceptedBy] at member
    split at member
    · cases member
    · rename_i free
      rcases List.mem_cons.1 member with rfl | member
      · simpa [Table.contains] using free
      · have later := ih member
        rw [Table.get?_insert] at later
        split at later
        · cases later
        · exact later

/-- Accepted members have different identities. -/
theorem acceptedBy_nodup (functions : Table TypeHash FunctionDecl) (fs : List FunctionDecl) :
    ((acceptedBy functions fs).map FunctionDecl.hash).Nodup := by
  induction fs generalizing functions with
  | nil => exact List.nodup_nil
  | cons f fs ih =>
    rw [acceptedBy]
    split
    · exact List.nodup_nil
    · rw [List.map_cons, List.nodup_cons]
      refine ⟨?_, ih _⟩
      intro repeated
      obtain ⟨g, member, same⟩ := List.mem_map.1 repeated
      have free := acceptedBy_fresh member
      rw [same, Table.get?_insert, if_pos rfl] at free
      cases free

/-- Accepted members stand behind the functions that were there. -/
theorem entries_acceptedBy (functions : Table TypeHash FunctionDecl) (fs : List FunctionDecl) :
    ((acceptedBy functions fs).foldl (fun table f => table.insert f.hash f) functions).entries =
      functions.entries ++ (acceptedBy functions fs).map fun f => (f.hash, f) := by
  induction fs generalizing functions with
  | nil => simp [acceptedBy]
  | cons f fs ih =>
    rw [acceptedBy]
    split
    · simp
    · rename_i free
      have absent : functions.get? f.hash = none := by simpa [Table.contains] using free
      rw [List.foldl_cons, ih, Table.entries_insert_of_absent absent]
      simp

/-- Erasing what the class lists leaves what was there and the accepted members it does not list. -/
theorem erase_listed_acceptedBy (functions : Table TypeHash FunctionDecl) (fs : List FunctionDecl)
    {listed : List TypeHash}
    (lists : ∀ h, h ∈ listed ↔ ∃ f ∈ acceptedBy functions fs, f.isListed ∧ f.hash = h) :
    (listed.foldl Table.erase ((acceptedBy functions fs).foldl
        (fun table f => table.insert f.hash f) functions)).entries =
      functions.entries ++
        ((acceptedBy functions fs).filter (!·.isListed)).map fun f => (f.hash, f) := by
  -- Functions from before have other identities than the members.
  have before : functions.entries.filter (fun entry => entry.1 ∉ listed) = functions.entries := by
    refine List.filter_eq_self.2 fun entry member => ?_
    have unlisted : entry.1 ∉ listed := by
      intro isListed
      obtain ⟨f, accepted, -, same⟩ := (lists entry.1).1 isListed
      exact (Table.get?_eq_none_iff _ _).1 (acceptedBy_fresh accepted) entry member same.symm
    simpa using unlisted
  have unlisted_iff : ∀ f ∈ acceptedBy functions fs,
      decide (f.hash ∉ listed) = !f.isListed := by
    intro f accepted
    by_cases goes : f.isListed
    · have isListed : f.hash ∈ listed := (lists f.hash).2 ⟨f, accepted, goes, rfl⟩
      simp [goes, isListed]
    · have unlisted : f.hash ∉ listed := by
        intro isListed
        obtain ⟨g, member, goes', same⟩ := (lists f.hash).1 isListed
        -- Accepted members with one identity are one member.
        have one : g = f :=
          List.inj_on_of_nodup_map (acceptedBy_nodup functions fs) member accepted same
        subst one
        exact goes goes'
      simp [goes, unlisted]
  rw [Table.entries_foldl_erase, entries_acceptedBy, List.filter_append, before,
    List.filter_map]
  congr 2
  exact List.filter_congr unlisted_iff

/-! ## What is left -/

/-- The registry without the name of a class, but with some functions more. -/
def rolledBack (r : Registry) (c : ClassDecl) (left : List FunctionDecl) : Registry :=
  { r.file c.path (eraseTypeName c.name) with
    functions := { entries := r.functions.entries ++ left.map fun f => (f.hash, f) } }

theorem class?_eq_some_iff {c : ClassDecl} :
    r.class? hash = some c ↔ r.type? hash = some (.classType c) := by
  rw [class?]
  cases r.type? hash with
  | none => simp
  | some decl => cases decl <;> simp [TypeDecl.class?]

/-- A class that was registered with some members and is taken out leaves nothing but the members
that it does not list; and its name is free. -/
theorem removeType_withMembers {c : ClassDecl} (free : r.type? c.hash = none)
    (unlisted : c.listed = []) (fs : List FunctionDecl) :
    (((r.addType (.classType c)).withMembers c.hash (acceptedBy r.functions fs)).removeType
        c.hash).2 = r.rolledBack c ((acceptedBy r.functions fs).filter (!·.isListed)) := by
  have present := class?_addType r c
  -- The class as it is taken out: it lists the accepted members, and its name is where it was.
  obtain ⟨c', found, path, name, listed⟩ :=
    @class?_withMembers _ _ (acceptedBy r.functions fs) c present
  obtain ⟨types, erased, members⟩ :=
    withMembers_eq (r.addType (.classType c)) c.hash (acceptedBy r.functions fs)
  have lists : ∀ h, h ∈ c'.listed ↔
      ∃ f ∈ acceptedBy r.functions fs, f.isListed ∧ f.hash = h := by
    simpa [unlisted] using listed
  have restored : types.erase c.hash = r.types := by
    rw [erased]
    show (r.types.insert c.hash (.classType c)).erase c.hash = r.types
    rw [Table.erase_insert, Table.erase_eq_self_iff]
    exact free
  -- Functions and names are not restored but cleared of what the class accounts for.
  have functions := erase_listed_acceptedBy r.functions fs lists
  have names := unfiled_file r c.path c.name c.hash
  rw [removeType_classType (class?_eq_some_iff.1 found), path, name, members]
  rw [rolledBack, Registry.mk.injEq]
  exact ⟨restored, congrArg Table.mk functions, rfl, rfl, rfl, rfl, names⟩

end Registry

end ScriptSemantics
