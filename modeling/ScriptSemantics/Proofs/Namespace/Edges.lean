import Mathlib.Data.List.Nodup
import ScriptSemantics.Namespace.Graph
import ScriptSemantics.Proofs.Namespace.Hierarchy

/-!
# Containment and Imports in One Graph

The namespace graph has one list of edges for two relations, and import edges may run in cycles and
against containment. The namespace tree has a place and a list of imports at each node instead. This
module shows that the graph implements the tree:

1. What is asked of the edges at a node depends on those that contain it, or on the import edges
   that leave it (`parent?_eq`, `name?_eq`, `imports_eq`). The order in which the edges are listed
   does not matter, since one edge at most contains a node.
2. `NamespaceGraph.Represents` relates a graph to a tree edge by edge. Every operation keeps it
   (`Represents.getOrCreatePath`, `Represents.modifyNames`, `Represents.addUsing`), and where it
   holds all answers agree (`Represents.agrees`).
3. So every graph that is built represents a tree that is built (`Built.represents`), and what is
   known about trees holds for graphs.

The main statement is `built_paths_round_trip`.
-/

namespace ScriptSemantics

theorem NamespaceEdge.name?_eq_some_iff {edge : NamespaceEdge} {name : String} :
    edge.name? = some name ↔ edge.link = .contains name := by
  unfold NamespaceEdge.name?
  cases edge.link <;> simp

namespace NamespaceGraph

variable {g : NamespaceGraph}

/-! ## The edges at a node -/

/-- The edges that contain a node, in order of creation. -/
def containing (g : NamespaceGraph) (node : Nat) : List NamespaceEdge :=
  g.edges.filter fun e => e.target == node && e.name?.isSome

/-- The import edges that leave a node, in order of creation. -/
def directives (g : NamespaceGraph) (node : Nat) : List NamespaceEdge :=
  g.edges.filter fun e => e.source == node && e.link == .uses

theorem mem_containing {node parent target : Nat} {name : String} :
    ⟨parent, target, .contains name⟩ ∈ g.containing node ↔
      ⟨parent, target, .contains name⟩ ∈ g.edges ∧ target = node := by
  simp [containing, NamespaceEdge.name?]

theorem exists_mem_outgoing_iff {node : Nat} {edge : NamespaceEdge} :
    (∃ id, (edge, id) ∈ g.outgoing node) ↔ edge ∈ g.edges ∧ edge.source = node := by
  simp only [outgoing, List.mem_reverse, List.mem_filter, beq_iff_eq,
    List.mem_zipIdx_iff_getElem?]
  constructor
  · rintro ⟨id, here, source⟩
    exact ⟨List.mem_of_getElem? here, source⟩
  · rintro ⟨member, source⟩
    obtain ⟨id, here⟩ := List.mem_iff_getElem?.mp member
    exact ⟨id, here, source⟩

theorem containing_addEdge (g : NamespaceGraph) (edge : NamespaceEdge) (node : Nat) :
    (g.addEdge edge).containing node = g.containing node ++
      if edge.target = node ∧ edge.name?.isSome then [edge] else [] := by
  by_cases picked : edge.target = node ∧ edge.name?.isSome <;> simp [containing, addEdge, picked]

theorem directives_addEdge (g : NamespaceGraph) (edge : NamespaceEdge) (node : Nat) :
    (g.addEdge edge).directives node = g.directives node ++
      if edge.source = node ∧ edge.link = .uses then [edge] else [] := by
  by_cases picked : edge.source = node ∧ edge.link = .uses <;> simp [directives, addEdge, picked]

/-- Edges that are picked out by what they are, and not by their number. -/
theorem map_fst_filter_zipIdx (edges : List NamespaceEdge) (p : NamespaceEdge → Bool) :
    (edges.zipIdx.filter fun e => p e.1).map Prod.fst = edges.filter p := by
  conv_rhs => rw [← List.zipIdx_map_fst 0 edges, List.filter_map]
  rfl

theorem map_fst_incoming (g : NamespaceGraph) (node : Nat) :
    ((g.incoming node).filter fun e => e.1.name?.isSome).map Prod.fst =
      (g.containing node).reverse := by
  rw [incoming, List.filter_reverse, List.map_reverse, List.filter_filter, containing,
    ← map_fst_filter_zipIdx]
  simp only [Bool.and_comm]

/-- The parent of a node is the source of the newest edge that contains it. -/
theorem parent?_eq (g : NamespaceGraph) (node : Nat) :
    g.parent? node = ((g.containing node).reverse.head?).map NamespaceEdge.source := by
  rw [← map_fst_incoming, List.head?_map, List.head?_filter, Option.map_map, parent?]
  rfl

/-- The name of a node is the name on the newest edge that contains it. -/
theorem name?_eq (g : NamespaceGraph) (node : Nat) :
    g.name? node = (g.containing node).reverse.findSome? NamespaceEdge.name? := by
  have named (edges : List (NamespaceEdge × Nat)) :
      edges.findSome? (fun e => e.1.name?) =
        ((edges.filter fun e => e.1.name?.isSome).map Prod.fst).findSome? NamespaceEdge.name? := by
    induction edges with
    | nil => rfl
    | cons e edges ih => cases known : e.1.name? <;> simp [known, ih]
  rw [name?, named, map_fst_incoming]

/-! ### Import edges

They are found newest first and put in order by their numbers. -/

theorem pairwise_snd_zipIdx (edges : List NamespaceEdge) :
    edges.zipIdx.Pairwise fun a b => a.2 < b.2 := by
  have increasing := @List.pairwise_lt_range' 0 edges.length 1 Nat.one_pos
  rw [← List.zipIdx_map_snd] at increasing
  exact List.pairwise_map.mp increasing

/-- Sorting by number undoes that the newest comes first. -/
theorem mergeSort_reverse {targets : List (Nat × Nat)}
    (increasing : targets.Pairwise fun a b => a.1 < b.1) :
    targets.reverse.mergeSort (fun a b => a.1 ≤ b.1) = targets := by
  have sorted : (targets.reverse.mergeSort fun a b => a.1 ≤ b.1).Pairwise fun a b => a.1 ≤ b.1 := by
    have sorts := @List.pairwise_mergeSort _ (fun a b : Nat × Nat => decide (a.1 ≤ b.1))
      (fun a b c ab bc => by simp at ab bc ⊢; omega) (fun a b => by simp; omega) targets.reverse
    exact sorts.imp fun h => by simpa using h
  have permuted := (List.mergeSort_perm targets.reverse fun a b => a.1 ≤ b.1).trans
    targets.reverse_perm
  -- Two entries with one number are one entry.
  have numbers : (targets.map Prod.fst).Nodup := List.pairwise_map.mpr (increasing.imp Nat.ne_of_lt)
  refine List.Perm.eq_of_pairwise (fun a b inA inB ab ba => ?_) sorted
    (increasing.imp Nat.le_of_lt) permuted
  exact List.inj_on_of_nodup_map numbers (permuted.mem_iff.mp inA) inB (Nat.le_antisymm ab ba)

theorem imports_eq (g : NamespaceGraph) (node : Nat) :
    g.imports node = (g.directives node).map NamespaceEdge.target := by
  have increasing := (pairwise_snd_zipIdx g.edges).filter
    fun e => e.1.link == .uses && e.1.source == node
  rw [imports, outgoing, List.filter_reverse, List.map_reverse, List.filter_filter]
  rw [mergeSort_reverse (List.pairwise_map.mpr increasing), directives,
    ← map_fst_filter_zipIdx, List.map_map, List.map_map]
  simp only [Bool.and_comm]
  rfl

/-- A directive adds an edge, unless it imports a node into itself or once more. -/
theorem addUsing_eq (g : NamespaceGraph) (source target : Nat) :
    g.addUsing source target =
      if source = target ∨ target ∈ g.imports source then g
      else g.addEdge ⟨source, target, .uses⟩ := by
  have known : ((g.outgoing source).any fun e => e.1.target == target && e.1.link == .uses) = true ↔
      target ∈ g.imports source := by
    rw [imports_eq, List.any_eq_true, List.mem_map]
    constructor
    · rintro ⟨⟨edge, id⟩, listed, picked⟩
      obtain ⟨member, source⟩ := exists_mem_outgoing_iff.mp ⟨id, listed⟩
      simp only [Bool.and_eq_true, beq_iff_eq] at picked
      exact ⟨edge, by simp [directives, member, source, picked], picked.1⟩
    · rintro ⟨edge, listed, rfl⟩
      simp only [directives, List.mem_filter, Bool.and_eq_true, beq_iff_eq] at listed
      obtain ⟨id, member⟩ := exists_mem_outgoing_iff.mpr ⟨listed.1, listed.2.1⟩
      exact ⟨_, member, by simp [listed.2.2]⟩
  rw [addUsing]
  by_cases imported : target ∈ g.imports source
  · simp [known.mpr imported, imported]
  · have unknown := Bool.eq_false_iff.mpr fun h => imported (known.mp h)
    by_cases same : source = target <;> simp [unknown, imported, same]

@[simp] theorem nodes_addUsing (g : NamespaceGraph) (source target : Nat) :
    (g.addUsing source target).nodes = g.nodes := by
  rw [addUsing_eq]
  split <;> rfl

/-! ### Children -/

theorem mem_edges_of_child? {parent node : Nat} {name : String}
    (found : g.child? parent name = some node) : ⟨parent, node, .contains name⟩ ∈ g.edges := by
  obtain ⟨⟨edge, id⟩, listed, picked⟩ := List.exists_of_findSome?_eq_some found
  obtain ⟨member, rfl⟩ := exists_mem_outgoing_iff.mp ⟨id, listed⟩
  obtain ⟨named, target⟩ := Option.ite_none_right_eq_some.mp picked
  cases target
  rwa [← NamespaceEdge.name?_eq_some_iff.mp named]

theorem child?_ne_none {parent node : Nat} {name : String}
    (member : ⟨parent, node, .contains name⟩ ∈ g.edges) : g.child? parent name ≠ none := by
  intro missing
  obtain ⟨id, listed⟩ := exists_mem_outgoing_iff.mpr ⟨member, rfl⟩
  simpa [NamespaceEdge.name?] using List.findSome?_eq_none_iff.mp missing _ listed

theorem getOrCreateFrom_cons (g : NamespaceGraph) (start : Nat) (name : String)
    (names : List String) :
    g.getOrCreateFrom start (name :: names) =
      (g.getOrCreateChild start name).2.getOrCreateFrom (g.getOrCreateChild start name).1 names :=
  rfl

/-! ## Graphs and trees -/

/-- The graph has the nodes of the tree, one edge for the place of each and one for each import. -/
structure Represents (g : NamespaceGraph) (tree : NamespaceTree) : Prop where
  names : g.nodes = tree.nodes.map NamespaceNode.names
  containing : ∀ node, g.containing node =
    (tree.place? node).toList.map fun place => ⟨place.1, node, .contains place.2⟩
  directives : ∀ node, g.directives node =
    (tree.imports node).map fun target => ⟨node, target, .uses⟩
  /-- No two nodes share a place, so it does not matter which edges come first. -/
  siblings : ∀ a b place, tree.place? a = some place → tree.place? b = some place → a = b

/-- Whatever is asked, the graph answers as the tree does. -/
structure Agrees (g : NamespaceGraph) (tree : NamespaceTree) : Prop where
  length : g.nodes.length = tree.nodes.length
  names : ∀ node, g.names? node = tree.names? node
  child : ∀ parent name, g.child? parent name = tree.child? parent name
  getPath : ∀ path, g.getPath? path = tree.getPath? path
  parent : ∀ node, g.parent? node = tree.parent? node
  ancestors : ∀ node, g.ancestors node = tree.ancestors node
  pathOf : ∀ node, g.pathOf node = tree.pathOf node
  imports : ∀ node, g.imports node = tree.imports node

namespace Represents

variable {tree : NamespaceTree}

theorem length (h : g.Represents tree) : g.nodes.length = tree.nodes.length := by
  rw [h.names, List.length_map]

/-- The edges that contain nodes say where these have their places. -/
theorem mem_edges_iff (h : g.Represents tree) {parent node : Nat} {name : String} :
    ⟨parent, node, .contains name⟩ ∈ g.edges ↔ tree.place? node = some (parent, name) := by
  have listed := @mem_containing g node parent node name
  rw [h.containing, and_iff_left rfl] at listed
  rw [← listed]
  cases tree.place? node <;> simp [Prod.ext_iff, eq_comm]

theorem child? (h : g.Represents tree) (parent : Nat) (name : String) :
    g.child? parent name = tree.child? parent name := by
  cases found : tree.child? parent name with
  | some node =>
    -- Some edge answers. Its target has the same place as the node of the tree.
    have place := NamespaceTree.place?_of_child? found
    obtain ⟨other, answer⟩ := Option.ne_none_iff_exists'.mp
      (child?_ne_none (h.mem_edges_iff.mpr place))
    rw [answer, h.siblings other node _ (h.mem_edges_iff.mp (mem_edges_of_child? answer)) place]
  | none =>
    rw [Option.eq_none_iff_forall_ne_some]
    intro node answer
    exact NamespaceTree.place?_ne_of_missing found node
      (h.mem_edges_iff.mp (mem_edges_of_child? answer))

theorem walk? (h : g.Represents tree) (node : Nat) (names : List String) :
    g.walk? node names = tree.walk? node names := by
  induction names generalizing node with
  | nil => rfl
  | cons name names ih =>
    rw [NamespaceGraph.walk?, NamespaceTree.walk?, h.child?]
    cases tree.child? node name with
    | none => rfl
    | some child => exact ih child

theorem parent? (h : g.Represents tree) (node : Nat) : g.parent? node = tree.parent? node := by
  rw [parent?_eq, h.containing, NamespaceTree.parent?]
  cases tree.place? node <;> rfl

theorem name? (h : g.Represents tree) (node : Nat) :
    g.name? node = (tree.place? node).map Prod.snd := by
  rw [name?_eq, h.containing]
  cases tree.place? node <;> rfl

theorem ancestors (h : g.Represents tree) (node : Nat) :
    g.ancestors node = tree.ancestors node := by
  induction node using Nat.strongRecOn with
  | _ node ih =>
    rw [NamespaceGraph.ancestors, NamespaceTree.ancestors, h.parent?]
    cases tree.parent? node with
    | none => rfl
    | some parent =>
      by_cases earlier : parent < node
      · simp only [earlier, ih parent earlier]
      · simp only [earlier, if_false]

theorem pathOf (h : g.Represents tree) (node : Nat) : g.pathOf node = tree.pathOf node := by
  rw [NamespaceGraph.pathOf, NamespaceTree.pathOf, NamespaceTree.namesTo, h.ancestors,
    funext h.name?]

theorem imports (h : g.Represents tree) (node : Nat) : g.imports node = tree.imports node := by
  rw [imports_eq, h.directives, List.map_map]
  exact List.map_id _

theorem agrees (h : g.Represents tree) : g.Agrees tree where
  length := h.length
  names node := by rw [names?, h.names, List.getElem?_map]; rfl
  child := h.child?
  getPath _ := h.walk? ..
  parent := h.parent?
  ancestors := h.ancestors
  pathOf := h.pathOf
  imports := h.imports

/-! ### Steps -/

theorem new : ({} : NamespaceGraph).Represents {} where
  names := rfl
  containing node := by cases node <;> rfl
  directives node := by cases node <;> rfl
  siblings := NamespaceTree.WellFormed.new.siblings

/-- A child that is missing gets a node and an edge behind all others. -/
theorem concat (h : g.Represents tree) {parent : Nat} {name : String}
    (missing : tree.child? parent name = none) :
    ({ g.addEdge ⟨parent, g.nodes.length, .contains name⟩ with nodes := g.nodes ++ [{}] } :
      NamespaceGraph).Represents { nodes := tree.nodes ++ [{ place := some (parent, name) }] } where
  names := by simp [h.names]
  containing node := by
    show (g.addEdge _).containing node = _
    rw [containing_addEdge, h.containing, h.length, NamespaceTree.place?_concat]
    by_cases here : node = tree.nodes.length
    · subst here
      simp [NamespaceTree.place?_length, NamespaceEdge.name?]
    · simp [here, Ne.symm here]
  directives node := by
    show (g.addEdge _).directives node = _
    rw [directives_addEdge, h.directives, NamespaceTree.imports_concat]
    simp
  siblings a b place atA atB := by
    -- The place of the new node was free.
    have free := NamespaceTree.place?_ne_of_missing missing
    rcases NamespaceTree.place?_concat_eq_some_iff.mp atA with ⟨rfl, rfl⟩ | oldA
    · rcases NamespaceTree.place?_concat_eq_some_iff.mp atB with ⟨rfl, -⟩ | oldB
      · rfl
      · exact absurd oldB (free b)
    · rcases NamespaceTree.place?_concat_eq_some_iff.mp atB with ⟨rfl, rfl⟩ | oldB
      · exact absurd oldA (free a)
      · exact h.siblings a b place oldA oldB

theorem getOrCreateChild (h : g.Represents tree) (parent : Nat) (name : String) :
    (g.getOrCreateChild parent name).1 = (tree.getOrCreateChild parent name).1 ∧
      (g.getOrCreateChild parent name).2.Represents (tree.getOrCreateChild parent name).2 := by
  have answer := h.child? parent name
  unfold NamespaceGraph.getOrCreateChild
  rw [answer]
  cases found : tree.child? parent name with
  | some node =>
    rw [NamespaceTree.getOrCreateChild_of_child? found]
    exact ⟨rfl, h⟩
  | none =>
    rw [NamespaceTree.getOrCreateChild_of_missing found]
    exact ⟨h.length, h.concat found⟩

/-- By induction on the levels of the path. -/
theorem getOrCreateFrom (h : g.Represents tree) (start : Nat) (names : List String) :
    (g.getOrCreateFrom start names).1 = (tree.getOrCreateFrom start names).1 ∧
      (g.getOrCreateFrom start names).2.Represents (tree.getOrCreateFrom start names).2 := by
  induction names generalizing g tree start with
  | nil => exact ⟨rfl, h⟩
  | cons name names ih =>
    obtain ⟨same, step⟩ := h.getOrCreateChild start name
    have rest := ih step (tree.getOrCreateChild start name).1
    rw [getOrCreateFrom_cons, same]
    exact rest

theorem getOrCreatePath (h : g.Represents tree) (path : String) :
    (g.getOrCreatePath path).1 = (tree.getOrCreatePath path).1 ∧
      (g.getOrCreatePath path).2.Represents (tree.getOrCreatePath path).2 :=
  h.getOrCreateFrom _ _

/-- Filing something in a namespace touches no edge. -/
theorem modifyNames (h : g.Represents tree) (node : Nat)
    (change : NamespaceNames → NamespaceNames) :
    (g.modifyNames node change).Represents (tree.modifyNames node change) := by
  have places := NamespaceTree.place?_congr (tree.places_modifyNames node change)
  constructor
  · refine List.ext_getElem? fun other => ?_
    have names := tree.names?_modifyNames node change other
    simp only [NamespaceTree.names?, ← List.getElem?_map, ← h.names] at names
    rw [names, NamespaceGraph.modifyNames, List.getElem?_modify]
    by_cases here : node = other <;> simp [here]
  · intro other
    rw [places]
    exact h.containing other
  · intro other
    rw [NamespaceTree.imports_modifyNames]
    exact h.directives other
  · simp only [places]
    exact h.siblings

theorem addUsing (h : g.Represents tree) {source : Nat} (inside : source < tree.nodes.length)
    (target : Nat) : (g.addUsing source target).Represents (tree.addUsing source target) := by
  have places := NamespaceTree.place?_congr (tree.places_addUsing source target)
  have edges (node : Nat) : (g.addUsing source target).containing node = g.containing node ∧
      (g.addUsing source target).directives node =
        ((tree.addUsing source target).imports node).map fun target => ⟨node, target, .uses⟩ := by
    rw [addUsing_eq, h.imports, NamespaceTree.imports_addUsing inside]
    by_cases known : source = target ∨ target ∈ tree.imports source
    · rw [if_pos known, if_neg (by tauto), h.directives]
      exact ⟨rfl, rfl⟩
    · -- The new edge contains nothing, and it is listed at its source only.
      rw [if_neg known, containing_addEdge, directives_addEdge, h.directives]
      rw [not_or] at known
      refine ⟨by simp [NamespaceEdge.name?], ?_⟩
      by_cases here : node = source
      · subst here
        simp [known]
      · simp [here, Ne.symm here]
  constructor
  · rw [nodes_addUsing, h.names]
    refine List.ext_getElem? fun node => ?_
    simpa [NamespaceTree.names?] using (tree.names?_addUsing source target node).symm
  · intro node
    rw [(edges node).1, h.containing, places]
  · exact fun node => (edges node).2
  · simp only [places]
    exact h.siblings

end Represents

/-! ## The main statement -/

/-- A graph grown from the root alone by paths and by directives between existing nodes. -/
inductive Built : NamespaceGraph → Prop
  | new : Built {}
  | path {g : NamespaceGraph} (built : Built g) (path : String) : Built (g.getOrCreatePath path).2
  | imported {g : NamespaceGraph} {source target : Nat} (built : Built g)
      (inside : source < g.nodes.length) (known : target < g.nodes.length) :
      Built (g.addUsing source target)

/-- The same paths and directives build a graph and the tree that it represents. -/
theorem Built.represents (built : g.Built) :
    ∃ tree : NamespaceTree, tree.Built ∧ g.Represents tree := by
  induction built with
  | new => exact ⟨{}, .new, .new⟩
  | path _ path ih =>
    obtain ⟨tree, built, represents⟩ := ih
    exact ⟨_, built.path path, (represents.getOrCreatePath path).2⟩
  | imported _ inside known ih =>
    obtain ⟨tree, built, represents⟩ := ih
    rw [represents.length] at inside known
    exact ⟨_, built.imported inside known, represents.addUsing inside _⟩

/-- Containment is a tree, whatever other edges there are: one edge contains each node but the root,
siblings have different names, and following parents from any node leads to the root, meeting no
node twice. -/
structure IsHierarchy (g : NamespaceGraph) : Prop where
  root_containing : g.containing root = []
  root_parent : g.parent? root = none
  parents : ∀ node, node ≠ root → node < g.nodes.length →
    ∃ parent name, g.containing node = [⟨parent, node, .contains name⟩] ∧
      parent < g.nodes.length ∧ g.parent? node = some parent
  siblings : ∀ parent name a b, ⟨parent, a, .contains name⟩ ∈ g.edges →
    ⟨parent, b, .contains name⟩ ∈ g.edges → a = b
  ascent : ∀ node, node < g.nodes.length →
    (g.ancestors node).head? = some node ∧ (g.ancestors node).getLast? = some root ∧
      (g.ancestors node).Nodup ∧
      (g.ancestors node).IsChain fun lower upper => g.parent? lower = some upper

theorem Represents.isHierarchy {tree : NamespaceTree} (h : g.Represents tree)
    (wf : tree.WellFormed) : g.IsHierarchy where
  root_containing := by
    have nowhere : tree.place? root = none := wf.nowhere
    rw [h.containing, nowhere]
    rfl
  root_parent := by
    have nowhere : tree.place? root = none := wf.nowhere
    rw [h.parent?, NamespaceTree.parent?, nowhere]
    rfl
  parents node other inside := by
    rw [h.length] at inside ⊢
    obtain ⟨⟨parent, name⟩, place⟩ := wf.placed node other inside
    refine ⟨parent, name, ?_, Nat.lt_trans (wf.earlier node parent name place) inside, ?_⟩
    · rw [h.containing, place]
      rfl
    · rw [h.parent?, NamespaceTree.parent?, place]
      rfl
  siblings parent name a b atA atB :=
    h.siblings a b _ (h.mem_edges_iff.mp atA) (h.mem_edges_iff.mp atB)
  ascent node inside := by
    rw [h.length] at inside
    rw [h.ancestors]
    simp only [h.parent?]
    exact ⟨tree.head?_ancestors node, wf.getLast?_ancestors inside, wf.nodup_ancestors node,
      wf.isChain_ancestors node⟩

/-- What existing paths and nodes look like in a graph that grew out of another: paths still lead
where they led, and nodes have the path, the parent and the imports that they had. -/
structure Keeps (g g' : NamespaceGraph) : Prop where
  getPath : ∀ path node, g.getPath? path = some node → g'.getPath? path = some node
  pathOf : ∀ node, node < g.nodes.length → g'.pathOf node = g.pathOf node
  parent : ∀ node, node < g.nodes.length → g'.parent? node = g.parent? node
  imports : ∀ node, node < g.nodes.length → g'.imports node = g.imports node

theorem Agrees.keeps {g' : NamespaceGraph} {tree tree' : NamespaceTree} (h : g.Agrees tree)
    (h' : g'.Agrees tree') (longer : tree.nodes <+: tree'.nodes) : g.Keeps g' where
  getPath path node found := by
    rw [h.getPath] at found
    rw [h'.getPath]
    exact NamespaceTree.walk?_of_prefix (longer.map NamespaceNode.place) found
  pathOf node inside := by
    rw [h.length] at inside
    rw [h.pathOf, h'.pathOf, NamespaceTree.pathOf, NamespaceTree.namesTo_of_prefix longer inside]
    rfl
  parent node inside := by
    rw [h.length] at inside
    rw [h.parent, h'.parent, NamespaceTree.parent?, NamespaceTree.place?_of_prefix longer inside]
    rfl
  imports node inside := by
    rw [h.length] at inside
    rw [h.imports, h'.imports, NamespaceTree.imports,
      NamespaceTree.getElem?_of_prefix longer inside]
    rfl

/-- In every graph that paths and directives build, containment is a tree and the path of a node
leads back to it, whatever the import edges between the nodes. Creating a path gives a node whose
path is the given one without empty segments, and what existed keeps its path, parent and imports. A
directive changes the imports of its source and nothing else. All answers are those of a tree built
in the same way. -/
theorem built_paths_round_trip (built : g.Built) :
    g.IsHierarchy ∧
      (∀ node, node < g.nodes.length → g.getPath? (g.pathOf node) = some node) ∧
      (∀ path node g', g.getOrCreatePath path = (node, g') →
        node < g'.nodes.length ∧ g'.getPath? path = some node ∧
          g'.pathOf node = Path.join (Path.segments path) ∧ g.Keeps g') ∧
      (∀ source target, source < g.nodes.length →
        (g.addUsing source target).nodes = g.nodes ∧
          (∀ parent name, (g.addUsing source target).child? parent name = g.child? parent name) ∧
          (∀ path, (g.addUsing source target).getPath? path = g.getPath? path) ∧
          ∀ node, (g.addUsing source target).containing node = g.containing node ∧
            (g.addUsing source target).parent? node = g.parent? node ∧
            (g.addUsing source target).ancestors node = g.ancestors node ∧
            (g.addUsing source target).pathOf node = g.pathOf node ∧
            (g.addUsing source target).imports node =
              if node = source ∧ source ≠ target ∧ target ∉ g.imports source then
                g.imports source ++ [target]
              else g.imports node) ∧
      ∃ tree : NamespaceTree, tree.Built ∧ g.Agrees tree := by
  obtain ⟨tree, builtTree, represents⟩ := built.represents
  have wf := builtTree.wellFormed
  have agrees := represents.agrees
  refine ⟨represents.isHierarchy wf, fun node inside => ?_, ?_, ?_, tree, builtTree, agrees⟩
  · rw [agrees.getPath, agrees.pathOf]
    exact wf.getPath?_pathOf (agrees.length ▸ inside)
  · -- The tree grows at its end, so what was there is found there.
    intro path node g' created
    obtain ⟨same, represents'⟩ := represents.getOrCreatePath path
    obtain ⟨-, bound, names⟩ := wf.getOrCreatePath path
    have found := tree.getPath?_getOrCreatePath path
    have longer := tree.nodes_prefix_getOrCreateFrom NamespaceTree.root (Path.segments path)
    rw [created] at same represents'
    rw [← same] at bound names found
    have agrees' := represents'.agrees
    rw [agrees'.length, agrees'.getPath, agrees'.pathOf, NamespaceTree.pathOf, names]
    exact ⟨bound, found, rfl, agrees.keeps agrees' longer⟩
  · -- All but the imports depend on the places in the tree, which a directive leaves alone.
    intro source target inside
    rw [agrees.length] at inside
    have represents' := represents.addUsing inside target
    have agrees' := represents'.agrees
    have places := tree.places_addUsing source target
    have place := NamespaceTree.place?_congr places
    refine ⟨nodes_addUsing .., fun parent name => ?_, fun path => ?_,
      fun node => ⟨?_, ?_, ?_, ?_, ?_⟩⟩
    · rw [agrees'.child, agrees.child, NamespaceTree.child?_eq_findIdx?, places,
        ← NamespaceTree.child?_eq_findIdx?]
    · rw [agrees'.getPath, agrees.getPath]
      exact NamespaceTree.walk?_congr places _ _
    · rw [represents'.containing, represents.containing, place]
    · rw [agrees'.parent, agrees.parent, NamespaceTree.parent?, place]
      rfl
    · rw [agrees'.ancestors, agrees.ancestors, NamespaceTree.ancestors_congr fun m _ => place m]
    · rw [agrees'.pathOf, agrees.pathOf, NamespaceTree.pathOf,
        NamespaceTree.namesTo_congr fun m _ => place m]
      rfl
    · rw [agrees'.imports, agrees.imports, agrees.imports]
      exact NamespaceTree.imports_addUsing inside target node

/-- Names with stray colons, below one another, and two namespaces that import each other. -/
def circular : NamespaceGraph :=
  ((({} : NamespaceGraph).getOrCreatePath "a:::b::c:").2.addUsing 1 3).addUsing 3 1

theorem circular_built : circular.Built :=
  .imported (.imported (.path .new "a:::b::c:") (by decide) (by decide)) (by decide) (by decide)

theorem built_paths_round_trip_circular :
    circular.Built ∧ circular.IsHierarchy ∧
      circular.edges = [⟨0, 1, .contains "a"⟩, ⟨1, 2, .contains ":b"⟩, ⟨2, 3, .contains "c:"⟩,
        ⟨1, 3, .uses⟩, ⟨3, 1, .uses⟩] ∧
      circular.imports 1 = [3] ∧
      circular.pathOf 3 = Path.join ["a", ":b", "c:"] ∧
      circular.getPath? (circular.pathOf 3) = some 3 ∧
      circular.getOrCreatePath "::a::::d:" = (4, (circular.getOrCreatePath "::a::::d:").2) ∧
      (circular.getOrCreatePath "::a::::d:").2.pathOf 4 = Path.join ["a", "d:"] ∧
      circular.Keeps (circular.getOrCreatePath "::a::::d:").2 ∧
      (circular.addUsing 1 2).parent? 2 = circular.parent? 2 ∧
      (circular.addUsing 1 2).imports 1 = [3, 2] := by
  obtain ⟨isTree, back, create, directive, -⟩ := built_paths_round_trip circular_built
  have created : circular.getOrCreatePath "::a::::d:" =
      (4, (circular.getOrCreatePath "::a::::d:").2) := by decide
  obtain ⟨-, -, path, kept⟩ := create _ _ _ created
  obtain ⟨-, -, deepest, -⟩ := create "a:::b::c:" 3 circular (by decide)
  obtain ⟨-, -, -, unchanged⟩ := directive 1 2 (by decide)
  have imported : circular.imports 1 = [3] := by
    rw [imports_eq]
    decide
  refine ⟨circular_built, isTree, by decide, imported, deepest, back 3 (by decide), created, path,
    kept, (unchanged 2).2.1, ?_⟩
  rw [(unchanged 1).2.2.2.2, imported]
  rfl

end NamespaceGraph

end ScriptSemantics
