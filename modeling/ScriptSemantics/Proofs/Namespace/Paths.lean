import Mathlib.Data.List.Basic
import ScriptSemantics.Namespace.Tree

/-!
# Paths of Namespaces

Where a path leads depends on the places of the nodes only, that is on their parents and simple
names. Names declared in a node do not matter, and nodes added at the end disturb no path. So the
node of a path, once created, is the one that the path finds from then on.
-/

namespace ScriptSemantics

namespace NamespaceTree

variable {tree tree' : NamespaceTree}

/-- The places of the nodes, in order. -/
def places (tree : NamespaceTree) : List (Option (Nat × String)) :=
  tree.nodes.map NamespaceNode.place

theorem child?_eq_findIdx? (tree : NamespaceTree) (parent : Nat) (name : String) :
    tree.child? parent name = tree.places.findIdx? (· == some (parent, name)) := by
  simp only [child?, places, List.findIdx?_map, Function.comp_def]

/-- Paths of trees with the same places lead to the same nodes. -/
theorem walk?_congr (same : tree'.places = tree.places) (node : Nat) (names : List String) :
    tree'.walk? node names = tree.walk? node names := by
  induction names generalizing node with
  | nil => rfl
  | cons name names ih =>
    rw [walk?, walk?, child?_eq_findIdx?, child?_eq_findIdx?, same]
    split
    · exact ih _
    · rfl

theorem walk?_append (tree : NamespaceTree) (start : Nat) (names more : List String) :
    tree.walk? start (names ++ more) = (tree.walk? start names).bind (tree.walk? · more) := by
  induction names generalizing start with
  | nil => rfl
  | cons name names ih =>
    rw [List.cons_append, walk?, walk?]
    cases tree.child? start name with
    | none => rfl
    | some child => exact ih child

@[simp] theorem places_modifyNames (tree : NamespaceTree) (node : Nat)
    (change : NamespaceNames → NamespaceNames) :
    (tree.modifyNames node change).places = tree.places := by
  simp only [places, modifyNames]
  refine List.ext_getElem? fun i => ?_
  simp only [List.getElem?_map, List.getElem?_modify]
  split
  · cases tree.nodes[i]? <;> rfl
  · cases tree.nodes[i]? <;> rfl

/-- Names are changed in one node, and all others keep theirs. -/
theorem names?_modifyNames (tree : NamespaceTree) (node : Nat)
    (change : NamespaceNames → NamespaceNames) (other : Nat) :
    (tree.modifyNames node change).names? other =
      if node = other then (tree.names? other).map change else tree.names? other := by
  simp only [names?, modifyNames, List.getElem?_modify]
  split
  · cases tree.nodes[other]? <;> rfl
  · cases tree.nodes[other]? <;> rfl

/-- Imports are no names. -/
theorem names?_addUsing (tree : NamespaceTree) (source target node : Nat) :
    (tree.addUsing source target).names? node = tree.names? node := by
  unfold addUsing
  split
  · rfl
  · simp only [names?, List.getElem?_modify]
    cases tree.nodes[node]? with
    | none => rfl
    | some n => by_cases here : source = node <;> simp [here]

theorem getPath?_modifyNames (tree : NamespaceTree) (node : Nat)
    (change : NamespaceNames → NamespaceNames) (path : String) :
    (tree.modifyNames node change).getPath? path = tree.getPath? path :=
  walk?_congr (places_modifyNames tree node change) _ _

/-! ## Nodes at the end disturb no path -/

theorem child?_of_prefix (longer : tree.places <+: tree'.places) {parent child : Nat}
    {name : String} (found : tree.child? parent name = some child) :
    tree'.child? parent name = some child := by
  obtain ⟨added, places⟩ := longer
  rw [child?_eq_findIdx?] at found ⊢
  rw [← places, List.findIdx?_append, found]
  rfl

theorem walk?_of_prefix (longer : tree.places <+: tree'.places) {start node : Nat}
    {names : List String} (found : tree.walk? start names = some node) :
    tree'.walk? start names = some node := by
  induction names generalizing start with
  | nil => exact found
  | cons name names ih =>
    rw [walk?] at found ⊢
    cases step : tree.child? start name with
    | none => simp [step] at found
    | some child =>
      have kept := child?_of_prefix longer step
      rw [step] at found
      rw [kept]
      exact ih found

/-! ## Creating what is missing -/

theorem getOrCreateChild_of_child? {parent child : Nat} {name : String}
    (found : tree.child? parent name = some child) :
    tree.getOrCreateChild parent name = (child, tree) := by
  simp only [getOrCreateChild, found]

theorem getOrCreateChild_of_missing {parent : Nat} {name : String}
    (missing : tree.child? parent name = none) :
    tree.getOrCreateChild parent name =
      (tree.nodes.length, { nodes := tree.nodes ++ [{ place := some (parent, name) }] }) := by
  simp only [getOrCreateChild, missing]

/-- A child that is asked for is there afterwards, and all others are where they were. -/
theorem getOrCreateChild_spec (tree : NamespaceTree) (parent : Nat) (name : String) :
    tree.places <+: (tree.getOrCreateChild parent name).2.places ∧
      (tree.getOrCreateChild parent name).2.child? parent name =
        some (tree.getOrCreateChild parent name).1 := by
  cases found : tree.child? parent name with
  | some child =>
    rw [getOrCreateChild_of_child? found]
    exact ⟨List.prefix_rfl, found⟩
  | none =>
    rw [getOrCreateChild_of_missing found]
    rw [child?_eq_findIdx?] at found
    refine ⟨by simp [places], ?_⟩
    rw [child?_eq_findIdx?]
    simp only [places, List.map_append, List.map_cons, List.map_nil, List.findIdx?_append]
    simp only [places] at found
    simp [found]

/-- The path that was created leads to the node that was returned. -/
theorem getOrCreateFrom_spec (tree : NamespaceTree) (start : Nat) (names : List String) :
    tree.places <+: (tree.getOrCreateFrom start names).2.places ∧
      (tree.getOrCreateFrom start names).2.walk? start names =
        some (tree.getOrCreateFrom start names).1 := by
  induction names generalizing tree start with
  | nil => exact ⟨List.prefix_rfl, rfl⟩
  | cons name names ih =>
    obtain ⟨first, child⟩ := tree.getOrCreateChild_spec start name
    rw [getOrCreateFrom]
    obtain ⟨rest, walked⟩ :=
      ih (tree.getOrCreateChild start name).2 (tree.getOrCreateChild start name).1
    refine ⟨first.trans rest, ?_⟩
    -- The child is still found after the rest of the path was created.
    rw [walk?, child?_of_prefix rest child]
    exact walked

theorem nodes_prefix_getOrCreateChild (tree : NamespaceTree) (parent : Nat) (name : String) :
    tree.nodes <+: (tree.getOrCreateChild parent name).2.nodes := by
  unfold getOrCreateChild
  split
  · exact List.prefix_rfl
  · exact List.prefix_append _ _

/-- Nodes are created behind those that exist. -/
theorem nodes_prefix_getOrCreateFrom (tree : NamespaceTree) (start : Nat) (names : List String) :
    tree.nodes <+: (tree.getOrCreateFrom start names).2.nodes := by
  induction names generalizing tree start with
  | nil => exact List.prefix_rfl
  | cons name names ih => exact (nodes_prefix_getOrCreateChild tree start name).trans (ih _ _)

/-- The names of a node that exists are not touched by the creation of others. -/
theorem names?_getOrCreatePath {node : Nat} {names : NamespaceNames}
    (known : tree.names? node = some names) (path : String) :
    (tree.getOrCreatePath path).2.names? node = some names := by
  obtain ⟨n, here, rfl⟩ := Option.map_eq_some_iff.1 known
  obtain ⟨added, nodes⟩ := nodes_prefix_getOrCreateFrom tree root (Path.segments path)
  have bound : node < tree.nodes.length := (List.getElem?_eq_some_iff.1 here).1
  rw [names?, getOrCreatePath, ← nodes, List.getElem?_append_left bound, here]
  rfl

theorem getPath?_getOrCreatePath (tree : NamespaceTree) (path : String) :
    (tree.getOrCreatePath path).2.getPath? path = some (tree.getOrCreatePath path).1 :=
  (tree.getOrCreateFrom_spec root (Path.segments path)).2

/-- Nothing is created for a path that exists. -/
theorem getOrCreateFrom_of_walk? {start node : Nat} {names : List String}
    (found : tree.walk? start names = some node) :
    tree.getOrCreateFrom start names = (node, tree) := by
  induction names generalizing start with
  | nil =>
    cases found
    rfl
  | cons name names ih =>
    rw [walk?] at found
    cases step : tree.child? start name with
    | none => simp [step] at found
    | some child =>
      rw [step] at found
      rw [getOrCreateFrom, getOrCreateChild_of_child? step]
      exact ih found

theorem getOrCreatePath_of_getPath? {path : String} {node : Nat}
    (found : tree.getPath? path = some node) : tree.getOrCreatePath path = (node, tree) :=
  getOrCreateFrom_of_walk? found

theorem length_le_of_prefix (longer : tree.places <+: tree'.places) :
    tree.nodes.length ≤ tree'.nodes.length := by
  simpa [places] using longer.length_le

/-- For a path that is missing, at least one node is created. -/
theorem length_lt_getOrCreateFrom {start : Nat} {names : List String}
    (missing : tree.walk? start names = none) :
    tree.nodes.length < (tree.getOrCreateFrom start names).2.nodes.length := by
  induction names generalizing tree start with
  | nil => cases missing
  | cons name names ih =>
    rw [getOrCreateFrom]
    cases step : tree.child? start name with
    | some child =>
      rw [getOrCreateChild_of_child? step]
      rw [walk?, step] at missing
      exact ih missing
    | none =>
      rw [getOrCreateChild_of_missing step]
      have rest := length_le_of_prefix (getOrCreateFrom_spec
        { nodes := tree.nodes ++ [{ place := some (start, name) }] } tree.nodes.length names).1
      simp only [List.length_append, List.length_cons, List.length_nil] at rest
      exact rest

end NamespaceTree

end ScriptSemantics
