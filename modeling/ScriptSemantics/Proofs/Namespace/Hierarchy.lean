import Mathlib.Data.List.Nodup
import ScriptSemantics.Proofs.Namespace.Paths
import ScriptSemantics.Proofs.Namespace.Segments

/-!
# The Hierarchy of Namespaces

Namespaces are created by walking down paths, and import directives connect them in any way, in
cycles too. Whatever the directives, containment stays a tree, and the path of a node leads back to
it:

1. `NamespaceTree.WellFormed` is what every step keeps: each node but the root lies in one that was
   created before it, no two nodes share a place, and names can be told apart in a path. The last
   point needs care: a name may end in a colon, but then it stands last in the path that created it,
   and nothing is ever created below it.
2. In a well-formed tree, the names on the way to a node are the segments of its path
   (`segmented_namesTo`), and walking along them ends at the node (`walk?_namesTo`).
3. Paths and parents depend on the places of the nodes up to the one in question
   (`namesTo_congr`), so new nodes and imports leave them alone.

`Built.wellFormed` says so of every tree that paths and directives build.
-/

namespace ScriptSemantics

namespace NamespaceTree

variable {tree tree' : NamespaceTree}

/-! ## Places -/

theorem place?_eq_some_iff {node : Nat} {place : Nat × String} :
    tree.place? node = some place ↔ tree.places[node]? = some (some place) := by
  simp only [place?, places, List.getElem?_map]
  cases tree.nodes[node]? <;> simp

theorem place?_congr (same : tree'.places = tree.places) (node : Nat) :
    tree'.place? node = tree.place? node := by
  ext place
  simp only [place?_eq_some_iff, same]

theorem lt_length_of_place? {node : Nat} {place : Nat × String}
    (found : tree.place? node = some place) : node < tree.nodes.length := by
  rw [place?_eq_some_iff] at found
  simpa [places] using (List.getElem?_eq_some_iff.mp found).1

/-- Nodes that exist stay as they are when others are created behind them. -/
theorem getElem?_of_prefix (longer : tree.nodes <+: tree'.nodes) {node : Nat}
    (inside : node < tree.nodes.length) : tree'.nodes[node]? = tree.nodes[node]? := by
  obtain ⟨added, nodes⟩ := longer
  rw [← nodes, List.getElem?_append_left inside]

theorem place?_of_prefix (longer : tree.nodes <+: tree'.nodes) {node : Nat}
    (inside : node < tree.nodes.length) : tree'.place? node = tree.place? node := by
  rw [place?, place?, getElem?_of_prefix longer inside]

/-- Behind all nodes there is no place. -/
theorem place?_length (tree : NamespaceTree) : tree.place? tree.nodes.length = none := by
  simp [place?]

/-- A new node behind all others is the only one to get a place. -/
theorem place?_concat (tree : NamespaceTree) (place : Nat × String) (node : Nat) :
    ({ nodes := tree.nodes ++ [{ place := some place }] } : NamespaceTree).place? node =
      if node = tree.nodes.length then some place else tree.place? node := by
  by_cases here : node = tree.nodes.length
  · simp [place?, here]
  · rw [if_neg here]
    by_cases inside : node < tree.nodes.length
    · rw [place?, place?, List.getElem?_append_left inside]
    · -- Nothing is added behind the new node.
      rw [place?, place?, List.getElem?_eq_none (by simp; omega),
        List.getElem?_eq_none (by omega)]

theorem place?_concat_eq_some_iff {place place' : Nat × String} {node : Nat} :
    ({ nodes := tree.nodes ++ [{ place := some place }] } : NamespaceTree).place? node =
        some place' ↔
      (node = tree.nodes.length ∧ place' = place) ∨ tree.place? node = some place' := by
  rw [place?_concat]
  by_cases here : node = tree.nodes.length
  · simp [here, place?_length, eq_comm]
  · simp [here]

theorem place?_of_child? {parent node : Nat} {name : String}
    (found : tree.child? parent name = some node) : tree.place? node = some (parent, name) := by
  rw [child?_eq_findIdx?, List.findIdx?_eq_some_iff_getElem] at found
  obtain ⟨bound, here, -⟩ := found
  rw [place?_eq_some_iff, List.getElem?_eq_getElem bound]
  simpa using here

theorem place?_ne_of_missing {parent : Nat} {name : String}
    (missing : tree.child? parent name = none) (node : Nat) :
    tree.place? node ≠ some (parent, name) := by
  intro place
  rw [child?_eq_findIdx?, List.findIdx?_eq_none_iff] at missing
  have listed := List.mem_of_getElem? (place?_eq_some_iff.mp place)
  simpa using missing _ listed

/-- From a node that exists, paths lead to nodes that exist. -/
theorem lt_length_of_walk? {start node : Nat} {names : List String}
    (inside : start < tree.nodes.length) (walked : tree.walk? start names = some node) :
    node < tree.nodes.length := by
  induction names generalizing start with
  | nil =>
    cases walked
    exact inside
  | cons name names ih =>
    rw [walk?] at walked
    split at walked
    · rename_i child found
      exact ih (lt_length_of_place? (place?_of_child? found)) walked
    · cases walked

/-! ## Ancestors

Following parents never goes up in number, so only the places of smaller nodes count. -/

theorem head?_ancestors (tree : NamespaceTree) (node : Nat) :
    (tree.ancestors node).head? = some node := by
  rw [ancestors]
  split
  · split <;> rfl
  · rfl

theorem le_of_mem_ancestors {node ancestor : Nat} (member : ancestor ∈ tree.ancestors node) :
    ancestor ≤ node := by
  induction node using Nat.strongRecOn with
  | _ node ih =>
    rw [ancestors] at member
    split at member
    · rename_i parent _
      split at member
      · rename_i earlier
        rcases List.mem_cons.mp member with rfl | above
        · exact Nat.le_refl _
        · exact Nat.le_trans (ih parent earlier above) (Nat.le_of_lt earlier)
      · exact Nat.le_of_eq (List.mem_singleton.mp member)
    · exact Nat.le_of_eq (List.mem_singleton.mp member)

theorem ancestors_congr {node : Nat} (same : ∀ m ≤ node, tree'.place? m = tree.place? m) :
    tree'.ancestors node = tree.ancestors node := by
  induction node using Nat.strongRecOn with
  | _ node ih =>
    have parents : tree'.parent? node = tree.parent? node := by
      rw [parent?, parent?, same node (Nat.le_refl _)]
    rw [ancestors, ancestors, parents]
    split
    · rename_i parent _
      split
      · rename_i earlier
        rw [ih parent earlier fun m below => same m (by omega)]
      · rfl
    · rfl

/-- The names down to a node depend on the places up to it. -/
theorem namesTo_congr {node : Nat} (same : ∀ m ≤ node, tree'.place? m = tree.place? m) :
    tree'.namesTo node = tree.namesTo node := by
  rw [namesTo, namesTo, ancestors_congr same]
  congr 1
  refine List.filterMap_congr fun ancestor member => ?_
  rw [same ancestor (le_of_mem_ancestors member)]

theorem namesTo_of_prefix (longer : tree.nodes <+: tree'.nodes) {node : Nat}
    (inside : node < tree.nodes.length) : tree'.namesTo node = tree.namesTo node :=
  namesTo_congr fun _ below => place?_of_prefix longer (Nat.lt_of_le_of_lt below inside)

theorem namesTo_of_place?_none {node : Nat} (nowhere : tree.place? node = none) :
    tree.namesTo node = [] := by
  rw [namesTo, ancestors, parent?, nowhere]
  simp [nowhere]

/-- Every name on the way to a node is the name of some node. -/
theorem exists_place?_of_mem_namesTo {node : Nat} {name : String}
    (member : name ∈ tree.namesTo node) : ∃ n parent, tree.place? n = some (parent, name) := by
  rw [namesTo, List.mem_reverse] at member
  obtain ⟨n, -, named⟩ := List.mem_filterMap.mp member
  obtain ⟨⟨parent, _⟩, place, rfl⟩ := Option.map_eq_some_iff.mp named
  exact ⟨n, parent, place⟩

/-! ## Well-formed trees -/

/-- Containment is a tree with its root at the first node, and its names can be told apart in a
path. -/
structure WellFormed (tree : NamespaceTree) : Prop where
  inhabited : root < tree.nodes.length
  nowhere : tree.place? root = none
  placed : ∀ node, node ≠ root → node < tree.nodes.length → ∃ place, tree.place? node = some place
  /-- A node is created after the one that it lies in. -/
  earlier : ∀ node parent name, tree.place? node = some (parent, name) → parent < node
  siblings : ∀ a b place, tree.place? a = some place → tree.place? b = some place → a = b
  nonempty : ∀ node parent name, tree.place? node = some (parent, name) → name ≠ ""
  whole : ∀ node parent name, tree.place? node = some (parent, name) → Path.Whole name.toList
  /-- Only a node without children may have a name that ends in a colon. -/
  closed : ∀ node parent name, tree.place? node = some (parent, name) →
    ∀ child childName, tree.place? child = some (node, childName) →
      name.toList.getLast? ≠ some ':'

namespace WellFormed

/-- Induction from the nodes without a place downwards. -/
theorem induct (wf : tree.WellFormed) {motive : Nat → Prop}
    (top : ∀ node, tree.place? node = none → motive node)
    (below : ∀ node parent name, tree.place? node = some (parent, name) → motive parent →
      motive node) (node : Nat) : motive node := by
  induction node using Nat.strongRecOn with
  | _ node ih =>
    cases place : tree.place? node with
    | none => exact top node place
    | some placed =>
      obtain ⟨parent, name⟩ := placed
      exact below node parent name place (ih parent (wf.earlier node parent name place))

/-- Induction from the root downwards: among existing nodes, only the root is without a place. -/
theorem inductInside (wf : tree.WellFormed) {motive : Nat → Prop} (atRoot : motive root)
    (below : ∀ node parent name, tree.place? node = some (parent, name) → motive parent →
      motive node) {node : Nat} (inside : node < tree.nodes.length) : motive node := by
  induction node using wf.induct with
  | top node nowhere =>
    by_cases isRoot : node = root
    · rwa [isRoot]
    · obtain ⟨place, here⟩ := wf.placed node isRoot inside
      cases nowhere.symm.trans here
  | below node parent name place ih =>
    have parentInside := Nat.lt_trans (wf.earlier node parent name place) inside
    exact below node parent name place (ih parentInside)

theorem ancestors_root (wf : tree.WellFormed) : tree.ancestors root = [root] := by
  rw [ancestors, parent?, wf.nowhere]
  rfl

theorem ancestors_of_place? (wf : tree.WellFormed) {node parent : Nat} {name : String}
    (place : tree.place? node = some (parent, name)) :
    tree.ancestors node = node :: tree.ancestors parent := by
  rw [ancestors, parent?, place]
  simp [wf.earlier node parent name place]

theorem namesTo_of_place? (wf : tree.WellFormed) {node parent : Nat} {name : String}
    (place : tree.place? node = some (parent, name)) :
    tree.namesTo node = tree.namesTo parent ++ [name] := by
  rw [namesTo, wf.ancestors_of_place? place, namesTo]
  simp [place]

/-- A node is found under its place. -/
theorem child?_of_place? (wf : tree.WellFormed) {node parent : Nat} {name : String}
    (place : tree.place? node = some (parent, name)) : tree.child? parent name = some node := by
  cases found : tree.child? parent name with
  | some other => rw [wf.siblings _ _ _ (tree.place?_of_child? found) place]
  | none => exact absurd place (place?_ne_of_missing found node)

/-! ### Paths of nodes -/

/-- The names on the way to a node lead to it. -/
theorem walk?_namesTo (wf : tree.WellFormed) {node : Nat} (inside : node < tree.nodes.length) :
    tree.walk? root (tree.namesTo node) = some node := by
  refine wf.inductInside
    (motive := fun node => tree.walk? root (tree.namesTo node) = some node) ?_ ?_ inside
  · rw [namesTo_of_place?_none wf.nowhere]
    rfl
  · intro node parent name place ih
    -- First to the parent, then to the child.
    rw [wf.namesTo_of_place? place, walk?_append, ih]
    simp [walk?, wf.child?_of_place? place]

/-- No name on the way to the parent of a node ends in a colon. -/
theorem closed_of_mem_namesTo (wf : tree.WellFormed) {node child : Nat} {childName name : String}
    (place : tree.place? child = some (node, childName)) (member : name ∈ tree.namesTo node) :
    name.toList.getLast? ≠ some ':' := by
  induction node using wf.induct generalizing child childName with
  | top node nowhere =>
    rw [namesTo_of_place?_none nowhere] at member
    cases member
  | below node parent nodeName here ih =>
    rw [wf.namesTo_of_place? here, List.mem_append, List.mem_singleton] at member
    rcases member with above | rfl
    · exact ih here above
    · exact wf.closed node parent name here child childName place

/-- The names on the way to a node can be told apart in its path. -/
theorem segmented_namesTo (wf : tree.WellFormed) (node : Nat) :
    Path.Segmented (tree.namesTo node) where
  nonempty name member := by
    obtain ⟨n, parent, place⟩ := tree.exists_place?_of_mem_namesTo member
    exact wf.nonempty n parent name place
  whole name member := by
    obtain ⟨n, parent, place⟩ := tree.exists_place?_of_mem_namesTo member
    exact wf.whole n parent name place
  closed name member := by
    cases here : tree.place? node with
    | none =>
      rw [namesTo_of_place?_none here] at member
      cases member
    | some place =>
      obtain ⟨parent, nodeName⟩ := place
      rw [wf.namesTo_of_place? here, List.dropLast_concat] at member
      exact wf.closed_of_mem_namesTo here member

theorem getPath?_pathOf (wf : tree.WellFormed) {node : Nat} (inside : node < tree.nodes.length) :
    tree.getPath? (tree.pathOf node) = some node := by
  rw [getPath?, pathOf, Path.segments_join (wf.segmented_namesTo node), wf.walk?_namesTo inside]

/-! ### Following parents -/

/-- Following parents leads to the root. -/
theorem getLast?_ancestors (wf : tree.WellFormed) {node : Nat}
    (inside : node < tree.nodes.length) : (tree.ancestors node).getLast? = some root := by
  refine wf.inductInside
    (motive := fun node => (tree.ancestors node).getLast? = some root) ?_ ?_ inside
  · rw [wf.ancestors_root]
    rfl
  · intro node parent name place ih
    rw [wf.ancestors_of_place? place, List.getLast?_cons, ih]
    rfl

/-- Each step goes down in number, so that no node is met twice. -/
theorem nodup_ancestors (wf : tree.WellFormed) (node : Nat) : (tree.ancestors node).Nodup := by
  induction node using wf.induct with
  | top node nowhere =>
    rw [ancestors, parent?, nowhere]
    exact List.nodup_singleton node
  | below node parent name place ih =>
    have earlier := wf.earlier node parent name place
    rw [wf.ancestors_of_place? place, List.nodup_cons]
    refine ⟨fun member => ?_, ih⟩
    have above := tree.le_of_mem_ancestors member
    omega

theorem isChain_ancestors (wf : tree.WellFormed) (node : Nat) :
    (tree.ancestors node).IsChain fun lower upper => tree.parent? lower = some upper := by
  induction node using wf.induct with
  | top node nowhere =>
    rw [ancestors, parent?, nowhere]
    exact .singleton node
  | below node parent name place ih =>
    have begins := head?_ancestors tree parent
    rw [wf.ancestors_of_place? place]
    cases chain : tree.ancestors parent with
    | nil => simp [chain] at begins
    | cons first rest =>
      rw [chain] at ih begins
      refine List.isChain_cons_cons.mpr ⟨?_, ih⟩
      rw [parent?, place]
      simpa using begins.symm

/-! ### Steps -/

/-- The root alone. -/
theorem new : ({} : NamespaceTree).WellFormed where
  inhabited := by simp [root]
  nowhere := rfl
  placed node other inside := by
    simp at inside
    exact absurd inside other
  earlier node parent name place := by cases node <;> simp [place?] at place
  siblings a b place atA := by cases a <;> simp [place?] at atA
  nonempty node parent name place := by cases node <;> simp [place?] at place
  whole node parent name place := by cases node <;> simp [place?] at place
  closed node parent name place := by cases node <;> simp [place?] at place

/-- Only places count. -/
theorem congr (wf : tree.WellFormed) (same : tree'.places = tree.places) : tree'.WellFormed := by
  have place := place?_congr same
  have length : tree'.nodes.length = tree.nodes.length := by
    simpa [places] using congrArg List.length same
  constructor
  · rw [length]
    exact wf.inhabited
  · rw [place]
    exact wf.nowhere
  · simp only [place, length]
    exact wf.placed
  · simp only [place]
    exact wf.earlier
  · simp only [place]
    exact wf.siblings
  · simp only [place]
    exact wf.nonempty
  · simp only [place]
    exact wf.whole
  · simp only [place]
    exact wf.closed

/-- A child may be added under a new name, to a node whose own name does not end in a colon. -/
theorem concat (wf : tree.WellFormed) {parent : Nat} {name : String}
    (inside : parent < tree.nodes.length) (missing : tree.child? parent name = none)
    (nonempty : name ≠ "") (whole : Path.Whole name.toList)
    (closed : ∀ above parentName, tree.place? parent = some (above, parentName) →
      parentName.toList.getLast? ≠ some ':') :
    ({ nodes := tree.nodes ++ [{ place := some (parent, name) }] } : NamespaceTree).WellFormed := by
  have free := place?_ne_of_missing missing
  -- In each point, either the new node is meant or an old one.
  constructor
  · simp [root]
  · rw [Option.eq_none_iff_forall_ne_some]
    intro place isThere
    rcases place?_concat_eq_some_iff.mp isThere with ⟨isNew, -⟩ | isOld
    · exact Nat.ne_of_lt wf.inhabited isNew
    · cases wf.nowhere.symm.trans isOld
  · intro node other bound
    rw [List.length_append, List.length_singleton] at bound
    by_cases isNew : node = tree.nodes.length
    · exact ⟨_, place?_concat_eq_some_iff.mpr (.inl ⟨isNew, rfl⟩)⟩
    · obtain ⟨place, isOld⟩ := wf.placed node other (by omega)
      exact ⟨place, place?_concat_eq_some_iff.mpr (.inr isOld)⟩
  · intro node above n place
    rcases place?_concat_eq_some_iff.mp place with ⟨rfl, same⟩ | isOld
    · cases same
      exact inside
    · exact wf.earlier node above n isOld
  · intro a b place atA atB
    rcases place?_concat_eq_some_iff.mp atA with ⟨rfl, rfl⟩ | oldA
    · rcases place?_concat_eq_some_iff.mp atB with ⟨rfl, -⟩ | oldB
      · rfl
      · exact absurd oldB (free b)
    · rcases place?_concat_eq_some_iff.mp atB with ⟨rfl, rfl⟩ | oldB
      · exact absurd oldA (free a)
      · exact wf.siblings a b place oldA oldB
  · intro node above n place
    rcases place?_concat_eq_some_iff.mp place with ⟨-, same⟩ | isOld
    · cases same
      exact nonempty
    · exact wf.nonempty node above n isOld
  · intro node above n place
    rcases place?_concat_eq_some_iff.mp place with ⟨-, same⟩ | isOld
    · cases same
      exact whole
    · exact wf.whole node above n isOld
  · intro node above n place child childName below
    rcases place?_concat_eq_some_iff.mp place with ⟨rfl, -⟩ | isOld
    · -- Nothing lies in the new node yet.
      rcases place?_concat_eq_some_iff.mp below with ⟨-, same⟩ | oldBelow
      · cases same
        omega
      · have earlier := wf.earlier child _ childName oldBelow
        have bound := lt_length_of_place? oldBelow
        omega
    · rcases place?_concat_eq_some_iff.mp below with ⟨-, same⟩ | oldBelow
      · cases same
        exact closed above n isOld
      · exact wf.closed node above n isOld child childName oldBelow

/-- A child that is asked for is there afterwards, in a tree that is well-formed again. -/
theorem getOrCreateChild (wf : tree.WellFormed) {parent : Nat} {name : String}
    (inside : parent < tree.nodes.length) (nonempty : name ≠ "") (whole : Path.Whole name.toList)
    (closed : ∀ above parentName, tree.place? parent = some (above, parentName) →
      parentName.toList.getLast? ≠ some ':') :
    (tree.getOrCreateChild parent name).2.WellFormed ∧
      (tree.getOrCreateChild parent name).2.place? (tree.getOrCreateChild parent name).1 =
        some (parent, name) := by
  refine ⟨?_, place?_of_child? (tree.getOrCreateChild_spec parent name).2⟩
  cases found : tree.child? parent name with
  | some child =>
    rw [getOrCreateChild_of_child? found]
    exact wf
  | none =>
    rw [getOrCreateChild_of_missing found]
    exact wf.concat inside found nonempty whole closed

/-- Creating the levels of a path below a node leads to a node with those names below the first. -/
theorem getOrCreateFrom (wf : tree.WellFormed) {start : Nat} {names : List String}
    (inside : start < tree.nodes.length) (segmented : Path.Segmented names)
    (closed : names ≠ [] → ∀ above startName, tree.place? start = some (above, startName) →
      startName.toList.getLast? ≠ some ':') :
    (tree.getOrCreateFrom start names).2.WellFormed ∧
      (tree.getOrCreateFrom start names).1 < (tree.getOrCreateFrom start names).2.nodes.length ∧
      (tree.getOrCreateFrom start names).2.namesTo (tree.getOrCreateFrom start names).1 =
        tree.namesTo start ++ names := by
  induction names generalizing tree start with
  | nil => exact ⟨wf, inside, (List.append_nil _).symm⟩
  | cons name names ih =>
    obtain ⟨step, place⟩ := wf.getOrCreateChild inside
      (segmented.nonempty name List.mem_cons_self) (segmented.whole name List.mem_cons_self)
      (closed (List.cons_ne_nil name names))
    have kept := nodes_prefix_getOrCreateChild tree start name
    obtain ⟨wf', bound, path⟩ := ih step (lt_length_of_place? place) segmented.tail
      fun more above childName here => by
        -- The child is not the last of the path, so that its name does not end in a colon.
        rw [place] at here
        cases here
        exact segmented.closed _ (by simp [List.dropLast_cons_of_ne_nil more])
    refine ⟨wf', bound, ?_⟩
    rw [NamespaceTree.getOrCreateFrom, path, step.namesTo_of_place? place,
      namesTo_of_prefix kept inside, List.append_assoc, List.singleton_append]

theorem getOrCreatePath (wf : tree.WellFormed) (path : String) :
    (tree.getOrCreatePath path).2.WellFormed ∧
      (tree.getOrCreatePath path).1 < (tree.getOrCreatePath path).2.nodes.length ∧
      (tree.getOrCreatePath path).2.namesTo (tree.getOrCreatePath path).1 =
        Path.segments path := by
  have created := wf.getOrCreateFrom wf.inhabited (Path.segmented_segments path)
    fun _ _ _ here => by
      rw [wf.nowhere] at here
      cases here
  rwa [namesTo_of_place?_none wf.nowhere, List.nil_append] at created

end WellFormed

/-! ## Import directives -/

/-- A new node has no imports. -/
theorem imports_concat (tree : NamespaceTree) (place : Nat × String) (node : Nat) :
    ({ nodes := tree.nodes ++ [{ place := some place }] } : NamespaceTree).imports node =
      tree.imports node := by
  simp only [imports, List.getElem?_append]
  split
  · rfl
  · rename_i outside
    rw [List.getElem?_eq_none (Nat.le_of_not_lt outside)]
    cases node - tree.nodes.length <;> rfl

theorem imports_modifyNames (tree : NamespaceTree) (node : Nat)
    (change : NamespaceNames → NamespaceNames) (other : Nat) :
    (tree.modifyNames node change).imports other = tree.imports other := by
  simp only [imports, modifyNames, List.getElem?_modify]
  split
  · cases tree.nodes[other]? <;> rfl
  · cases tree.nodes[other]? <;> rfl

theorem addUsing_eq_modify {source target : Nat} (other : source ≠ target)
    (fresh : target ∉ tree.imports source) :
    tree.addUsing source target =
      { nodes := tree.nodes.modify source fun n =>
          { n with imports := n.imports ++ [target] } } := by
  rw [addUsing, if_neg]
  rintro (same | known)
  · exact other same
  · exact fresh known

@[simp] theorem places_addUsing (tree : NamespaceTree) (source target : Nat) :
    (tree.addUsing source target).places = tree.places := by
  unfold addUsing
  split
  · rfl
  · refine List.ext_getElem? fun i => ?_
    simp only [places, List.getElem?_map, List.getElem?_modify]
    split
    · cases tree.nodes[i]? <;> rfl
    · cases tree.nodes[i]? <;> rfl

/-- A directive adds its target behind the imports of its source, once. -/
theorem imports_addUsing {source : Nat} (inside : source < tree.nodes.length)
    (target node : Nat) :
    (tree.addUsing source target).imports node =
      if node = source ∧ source ≠ target ∧ target ∉ tree.imports source then
        tree.imports source ++ [target]
      else tree.imports node := by
  by_cases fresh : source = target ∨ target ∈ tree.imports source
  · rw [addUsing, if_pos fresh, if_neg]
    rintro ⟨-, other, unknown⟩
    exact fresh.elim other unknown
  · rw [not_or] at fresh
    rw [addUsing_eq_modify fresh.1 fresh.2]
    simp only [imports, List.getElem?_modify]
    by_cases here : node = source
    · subst here
      simp only [imports] at fresh
      simp [List.getElem?_eq_getElem inside] at fresh ⊢
      simp [fresh]
    · simp [here, Ne.symm here]

/-! ## Trees that are built -/

/-- A tree grown from the root alone by paths and by directives between existing nodes. -/
inductive Built : NamespaceTree → Prop
  | new : Built {}
  | path {tree : NamespaceTree} (built : Built tree) (path : String) :
      Built (tree.getOrCreatePath path).2
  | imported {tree : NamespaceTree} {source target : Nat} (built : Built tree)
      (inside : source < tree.nodes.length) (known : target < tree.nodes.length) :
      Built (tree.addUsing source target)

theorem Built.wellFormed (built : tree.Built) : tree.WellFormed := by
  induction built with
  | new => exact .new
  | path _ path ih => exact (ih.getOrCreatePath path).1
  | imported _ _ _ ih => exact ih.congr (places_addUsing ..)

/-- Names with stray colons, below one another, and two namespaces that import each other. -/
def cyclic : NamespaceTree :=
  ((({} : NamespaceTree).getOrCreatePath "a:::b::c:").2.addUsing 1 3).addUsing 3 1

theorem cyclic_built : cyclic.Built :=
  .imported (.imported (.path .new "a:::b::c:") (by decide) (by decide)) (by decide) (by decide)

end NamespaceTree

end ScriptSemantics
