import ScriptSemantics.Declaration.Type
import ScriptSemantics.Operator
import ScriptSemantics.Table

/-!
# The namespace tree

Nodes are numbered in the order of their creation; the root is node 0. A node knows its parent and
its simple name, the names declared directly in it, and the nodes it imports by `using` directives.
Names map to identities only; the declarations themselves live in the registry.

A parent is created before its children, so following parents goes down in number and ends at the
root.
-/

namespace ScriptSemantics

/-- The names declared directly in one namespace. -/
structure NamespaceNames where
  types : Table String TypeHash := {}
  /-- Overload sets, in order of registration. -/
  functions : Table String (List TypeHash) := {}
  functionTemplates : Table String (List TypeHash) := {}
  classTemplates : Table String TypeHash := {}
  globals : Table String TypeHash := {}
  /-- Values of unscoped enums. -/
  enumValues : Table String (TypeHash × Int64) := {}
  /-- Free operator functions. -/
  operators : Table OperatorKind (List TypeHash) := {}
deriving DecidableEq, Inhabited, Repr

/-- Whether anything called `name` is declared here. -/
def NamespaceNames.declares (names : NamespaceNames) (name : String) : Bool :=
  names.types.contains name || names.functions.contains name
    || names.functionTemplates.contains name || names.classTemplates.contains name
    || names.globals.contains name || names.enumValues.contains name

/-- One namespace. -/
structure NamespaceNode where
  /-- Parent and simple name; the root has none. -/
  place : Option (Nat × String) := none
  names : NamespaceNames := {}
  /-- Imported namespaces in order of the directives. -/
  imports : List Nat := []
deriving DecidableEq, Inhabited, Repr

/-- The namespaces in order of creation, the root first. -/
structure NamespaceTree where
  nodes : List NamespaceNode := [{}]
deriving DecidableEq, Inhabited, Repr

namespace NamespaceTree

/-- The root, whose path is empty. -/
def root : Nat := 0

/-- The names of a node. -/
def names? (tree : NamespaceTree) (node : Nat) : Option NamespaceNames :=
  tree.nodes[node]?.map NamespaceNode.names

/-- Change the names of a node. -/
def modifyNames (tree : NamespaceTree) (node : Nat) (change : NamespaceNames → NamespaceNames) :
    NamespaceTree where
  nodes := tree.nodes.modify node fun n => { n with names := change n.names }

/-! ## Children and paths -/

/-- The child of `parent` called `name`. -/
def child? (tree : NamespaceTree) (parent : Nat) (name : String) : Option Nat :=
  tree.nodes.findIdx? fun n => n.place == some (parent, name)

/-- The child of `parent` called `name`, created at the end if it is missing. -/
def getOrCreateChild (tree : NamespaceTree) (parent : Nat) (name : String) :
    Nat × NamespaceTree :=
  match tree.child? parent name with
  | some node => (node, tree)
  | none => (tree.nodes.length, { nodes := tree.nodes ++ [{ place := some (parent, name) }] })

/-- Walk down from a node along names, creating what is missing. -/
def getOrCreateFrom (tree : NamespaceTree) (node : Nat) : List String → Nat × NamespaceTree
  | [] => (node, tree)
  | name :: names =>
    let (child, tree) := tree.getOrCreateChild node name
    tree.getOrCreateFrom child names

/-- The node of a path, created with all missing levels. -/
def getOrCreatePath (tree : NamespaceTree) (path : String) : Nat × NamespaceTree :=
  tree.getOrCreateFrom root (Path.segments path)

/-- Walk down from a node along names, as far as every level exists. -/
def walk? (tree : NamespaceTree) (node : Nat) : List String → Option Nat
  | [] => some node
  | name :: names =>
    match tree.child? node name with
    | some child => tree.walk? child names
    | none => none

/-- The node of a path, if every level exists. -/
def getPath? (tree : NamespaceTree) (path : String) : Option Nat :=
  tree.walk? root (Path.segments path)

/-! ## Ancestors -/

/-- Parent and simple name of a node. -/
def place? (tree : NamespaceTree) (node : Nat) : Option (Nat × String) :=
  tree.nodes[node]?.bind NamespaceNode.place

def parent? (tree : NamespaceTree) (node : Nat) : Option Nat :=
  (tree.place? node).map Prod.fst

/-- The node, its parent, and so on up to the root. -/
def ancestors (tree : NamespaceTree) (node : Nat) : List Nat :=
  match tree.parent? node with
  | some parent => if parent < node then node :: tree.ancestors parent else [node]
  | none => [node]
termination_by node

/-- Names from the root down to a node. -/
def namesTo (tree : NamespaceTree) (node : Nat) : List String :=
  ((tree.ancestors node).filterMap fun n => (tree.place? n).map Prod.snd).reverse

/-- The full path of a node. The root has the empty path. -/
def pathOf (tree : NamespaceTree) (node : Nat) : String :=
  Path.join (tree.namesTo node)

/-! ## Imports -/

/-- Namespaces imported into a node. -/
def imports (tree : NamespaceTree) (node : Nat) : List Nat :=
  (tree.nodes[node]?.map NamespaceNode.imports).getD []

/-- Import `target` into `source`. Importing twice, or into itself, changes nothing. -/
def addUsing (tree : NamespaceTree) (source target : Nat) : NamespaceTree :=
  if source = target ∨ target ∈ tree.imports source then tree
  else { nodes := tree.nodes.modify source fun n => { n with imports := n.imports ++ [target] } }

end NamespaceTree

end ScriptSemantics
