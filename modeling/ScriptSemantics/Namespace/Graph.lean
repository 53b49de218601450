import ScriptSemantics.Namespace.Tree

/-!
# The namespace graph

Namespaces are the nodes of one directed graph, and its edges are of two kinds: a namespace contains
another under a simple name, or it imports another by a `using` directive. Nodes and edges are
numbered in the order of their creation; the root is node 0. The edges at a node are listed newest
first, and whoever asks picks out the kind that matters. `NamespaceTree` holds the same by a place
and a list of imports at each node.
-/

namespace ScriptSemantics

/-- What an edge of the graph says about its ends. -/
inductive NamespaceLink where
  /-- The source contains the target under this simple name. -/
  | contains (name : String)
  /-- The source imports the target. -/
  | uses
deriving DecidableEq, Inhabited, Repr

structure NamespaceEdge where
  source : Nat
  target : Nat
  link : NamespaceLink
deriving DecidableEq, Inhabited, Repr

/-- The simple name under which the source contains the target. -/
def NamespaceEdge.name? (edge : NamespaceEdge) : Option String :=
  match edge.link with
  | .contains name => some name
  | .uses => none

/-- Namespaces and edges in order of creation. The number of an edge is its position. -/
structure NamespaceGraph where
  nodes : List NamespaceNames := [{}]
  edges : List NamespaceEdge := []
deriving DecidableEq, Inhabited, Repr

namespace NamespaceGraph

/-- The root, whose path is empty. -/
def root : Nat := 0

/-- The names of a node. -/
def names? (g : NamespaceGraph) (node : Nat) : Option NamespaceNames := g.nodes[node]?

/-- Change the names of a node. -/
def modifyNames (g : NamespaceGraph) (node : Nat) (change : NamespaceNames → NamespaceNames) :
    NamespaceGraph :=
  { g with nodes := g.nodes.modify node change }

/-! ## Edges at a node -/

/-- Edges from a node with their numbers, newest first. -/
def outgoing (g : NamespaceGraph) (node : Nat) : List (NamespaceEdge × Nat) :=
  (g.edges.zipIdx.filter fun e => e.1.source == node).reverse

/-- Edges to a node with their numbers, newest first. -/
def incoming (g : NamespaceGraph) (node : Nat) : List (NamespaceEdge × Nat) :=
  (g.edges.zipIdx.filter fun e => e.1.target == node).reverse

/-- Add an edge behind all others. -/
def addEdge (g : NamespaceGraph) (edge : NamespaceEdge) : NamespaceGraph :=
  { g with edges := g.edges ++ [edge] }

/-! ## Children and paths -/

/-- The child of `parent` called `name`. -/
def child? (g : NamespaceGraph) (parent : Nat) (name : String) : Option Nat :=
  (g.outgoing parent).findSome? fun e => if e.1.name? = some name then some e.1.target else none

/-- The child of `parent` called `name`, created at the end if it is missing. -/
def getOrCreateChild (g : NamespaceGraph) (parent : Nat) (name : String) : Nat × NamespaceGraph :=
  match g.child? parent name with
  | some node => (node, g)
  | none =>
    let node := g.nodes.length
    (node, { g.addEdge ⟨parent, node, .contains name⟩ with nodes := g.nodes ++ [{}] })

/-- Walk down from a node along names, creating what is missing. -/
def getOrCreateFrom (g : NamespaceGraph) (node : Nat) : List String → Nat × NamespaceGraph
  | [] => (node, g)
  | name :: names =>
    let (child, g) := g.getOrCreateChild node name
    g.getOrCreateFrom child names

/-- The node of a path, created with all missing levels. -/
def getOrCreatePath (g : NamespaceGraph) (path : String) : Nat × NamespaceGraph :=
  g.getOrCreateFrom root (Path.segments path)

/-- Walk down from a node along names, as far as every level exists. -/
def walk? (g : NamespaceGraph) (node : Nat) : List String → Option Nat
  | [] => some node
  | name :: names =>
    match g.child? node name with
    | some child => g.walk? child names
    | none => none

/-- The node of a path, if every level exists. -/
def getPath? (g : NamespaceGraph) (path : String) : Option Nat :=
  g.walk? root (Path.segments path)

/-! ## Ancestors -/

/-- The source of an edge that contains the node. -/
def parent? (g : NamespaceGraph) (node : Nat) : Option Nat :=
  ((g.incoming node).find? fun e => e.1.name?.isSome).map fun e => e.1.source

/-- The name on an edge that contains the node. -/
def name? (g : NamespaceGraph) (node : Nat) : Option String :=
  (g.incoming node).findSome? fun e => e.1.name?

/-- The node, its parent, and so on up to the root. -/
def ancestors (g : NamespaceGraph) (node : Nat) : List Nat :=
  match g.parent? node with
  | some parent => if parent < node then node :: g.ancestors parent else [node]
  | none => [node]
termination_by node

/-- The full path of a node. The root has the empty path. -/
def pathOf (g : NamespaceGraph) (node : Nat) : String :=
  Path.join ((g.ancestors node).filterMap g.name?).reverse

/-! ## Imports -/

/-- Import `target` into `source`. Importing twice, or into itself, changes nothing. -/
def addUsing (g : NamespaceGraph) (source target : Nat) : NamespaceGraph :=
  let known := (g.outgoing source).any fun e => e.1.target == target && e.1.link == .uses
  if !known && source != target then g.addEdge ⟨source, target, .uses⟩ else g

/-- Namespaces imported into a node, in order of the directives. -/
def imports (g : NamespaceGraph) (node : Nat) : List Nat :=
  let targets := ((g.outgoing node).filter fun e => e.1.link == .uses).map fun e =>
    (e.2, e.1.target)
  (targets.mergeSort fun a b => a.1 ≤ b.1).map Prod.snd

end NamespaceGraph

end ScriptSemantics
