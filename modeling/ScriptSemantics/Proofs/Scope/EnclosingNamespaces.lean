import Mathlib.Data.List.Induction
import ScriptSemantics.Lookup.Result
import ScriptSemantics.Proofs.Namespace.Hierarchy
import ScriptSemantics.Template.Completion

/-!
# Enclosing Namespaces

The namespaces around a place are computed twice. A scope puts the names of its path together, one
after the other, and each of these paths is split and walked again when a name is looked up. The
defaults of a template follow the parents of a node.

1. A path put together from segments is their join (`foldl_qualify`), so it leads where the segments
   do (`getPath?_join`). The segments in front of the last are segments too (`Segmented.front`).
2. One more name at the end is one more namespace in front of both lists (`enclosingFrom_concat`,
   `walk?_concat_eq_some_iff`), so the lists agree by induction from the end of the path
   (`map_getPath?_enclosing`).

The main statement is `scope_follows_ancestors`.
-/

namespace ScriptSemantics

/-! ## Paths put together name by name -/

namespace Path

/-- The names in front of the last can be told apart too. -/
theorem Segmented.front {names : List String} {name : String}
    (segmented : Segmented (names ++ [name])) : Segmented names where
  nonempty n member := segmented.nonempty n (List.mem_append_left _ member)
  whole n member := segmented.whole n (List.mem_append_left _ member)
  closed n member := by
    refine segmented.closed n ?_
    rw [List.dropLast_concat]
    exact List.dropLast_subset _ member

theorem join_ne_empty {names : List String} (inhabited : names ≠ [])
    (nonempty : ∀ name ∈ names, name ≠ "") : join names ≠ "" := by
  obtain ⟨name, names, rfl⟩ := List.exists_cons_of_ne_nil inhabited
  have first : name ≠ "" := nonempty name List.mem_cons_self
  cases names with
  | nil => simpa [join] using first
  | cons next names =>
    rw [join, String.intercalate_cons_of_ne_nil (by simp)]
    simp [first]

theorem join_concat {names : List String} (nonempty : ∀ name ∈ names, name ≠ "")
    (name : String) : join (names ++ [name]) = qualify (join names) name := by
  cases names with
  | nil => simp [join, qualify]
  | cons first names =>
    -- Only the empty path stands for the root, and nonempty names do not join into it.
    have below : (join (first :: names)).isEmpty = false := by
      simpa [String.isEmpty_iff] using join_ne_empty (by simp) nonempty
    rw [qualify, below, join, String.intercalate_append_of_ne_nil (by simp) (by simp)]
    simp [join]

theorem foldl_qualify {names : List String} (nonempty : ∀ name ∈ names, name ≠ "") :
    names.foldl qualify "" = join names := by
  induction names using List.reverseRecOn with
  | nil => rfl
  | append_singleton names name ih =>
    have earlier : ∀ n ∈ names, n ≠ "" := fun n member =>
      nonempty n (List.mem_append_left _ member)
    rw [List.foldl_concat, ih earlier, join_concat earlier]

theorem enclosingFrom_concat (outer : String) (names : List String) (name : String) :
    enclosingFrom outer (names ++ [name]) =
      enclosingFrom outer names ++ [(names ++ [name]).foldl qualify outer] := by
  induction names generalizing outer with
  | nil => rfl
  | cons first names ih => simp only [List.cons_append, enclosingFrom, ih, List.foldl_cons]

end Path

/-! ## Walking down and following parents -/

namespace NamespaceTree

variable {tree tree' : NamespaceTree}

theorem walk?_concat_eq_some_iff {start node : Nat} {names : List String} {name : String} :
    tree.walk? start (names ++ [name]) = some node ↔
      ∃ parent, tree.walk? start names = some parent ∧ tree.child? parent name = some node := by
  have last (parent : Nat) : tree.walk? parent [name] = tree.child? parent name := by
    rw [walk?]
    cases tree.child? parent name <;> rfl
  simp only [walk?_append, Option.bind_eq_some_iff, last]

/-- A path joined from segments leads where the segments do. -/
theorem getPath?_join {names : List String} (segmented : Path.Segmented names) :
    tree.getPath? (Path.join names) = tree.walk? root names := by
  rw [getPath?, Path.segments_join segmented]

theorem getPath?_congr (same : tree'.places = tree.places) (path : String) :
    tree'.getPath? path = tree.getPath? path :=
  walk?_congr same _ _

/-- The paths around a place, innermost first, lead to the nodes above it. -/
theorem WellFormed.map_getPath?_enclosing (wf : tree.WellFormed) {names : List String} {node : Nat}
    (segmented : Path.Segmented names) (walked : tree.walk? root names = some node) :
    ((Path.enclosingFrom "" names).reverse ++ [""]).map tree.getPath? =
      (tree.ancestors node).map some := by
  -- The last name belongs to the node itself; all others are the names of its parent.
  induction names using List.reverseRecOn generalizing node with
  | nil =>
    cases walked
    rw [wf.ancestors_root]
    rfl
  | append_singleton names name ih =>
    obtain ⟨parent, above, child⟩ := walk?_concat_eq_some_iff.mp walked
    -- Splitting the path again must not cut it elsewhere: this is where the names being segments
    -- counts.
    have innermost : tree.getPath? ((names ++ [name]).foldl Path.qualify "") = some node := by
      rw [Path.foldl_qualify segmented.nonempty, getPath?_join segmented, walked]
    rw [Path.enclosingFrom_concat, wf.ancestors_of_place? (place?_of_child? child)]
    simp only [List.reverse_append, List.reverse_singleton, List.cons_append, List.nil_append,
      List.map_cons, innermost, ih segmented.front above]

theorem WellFormed.lt_length_of_walk? (wf : tree.WellFormed) {names : List String} {node : Nat}
    (walked : tree.walk? root names = some node) : node < tree.nodes.length :=
  NamespaceTree.lt_length_of_walk? wf.inhabited walked

end NamespaceTree

/-! ## The levels of a namespace scope -/

namespace Scope

theorem levels_foldl_enter (paths : List String) (scope : Scope) :
    (paths.foldl (fun scope p => scope.enter (.space p)) scope).levels =
      paths.reverse.map .space ++ scope.levels := by
  induction paths generalizing scope with
  | nil => rfl
  | cons path paths ih =>
    rw [List.foldl_cons, ih, enter, List.reverse_cons, List.map_append, List.append_assoc]
    rfl

theorem levels_inNamespace (path : String) :
    (inNamespace path).levels =
      ((Path.enclosingFrom "" (Path.segments path)).reverse ++ [""]).map .space := by
  rw [inNamespace, levels_foldl_enter, List.map_append]
  rfl

theorem namespaces_inNamespace (path : String) :
    (inNamespace path).namespaces =
      (Path.enclosingFrom "" (Path.segments path)).reverse ++ [""] := by
  rw [namespaces, levels_inNamespace, List.filterMap_map]
  exact List.filterMap_some

/-- Nothing but namespaces surrounds a place in a namespace. -/
theorem levels_eq_map_namespaces (path : String) :
    (inNamespace path).levels = (inNamespace path).namespaces.map .space := by
  rw [levels_inNamespace, namespaces_inNamespace]

end Scope

theorem NamespaceTree.WellFormed.map_getPath?_namespaces {tree : NamespaceTree}
    (wf : tree.WellFormed) {path : String} {node : Nat} (found : tree.getPath? path = some node) :
    (Scope.inNamespace path).namespaces.map tree.getPath? = (tree.ancestors node).map some := by
  rw [Scope.namespaces_inNamespace]
  exact wf.map_getPath?_enclosing (Path.segmented_segments path) found

/-! ## The two searches -/

namespace Registry

variable {r : Registry} {path name : String} {node : Nat}

/-- Namespace levels are searched node by node; those that do not exist declare nothing. -/
theorem firstKnown_atLevel_space (r : Registry) (name : String) (paths : List String) :
    LookupResult.firstKnown (r.atLevel name) (paths.map .space) =
      LookupResult.firstKnown (fun node => r.inNamespace node name)
        (paths.filterMap r.namespaces.getPath?) := by
  induction paths with
  | nil => rfl
  | cons path paths ih =>
    rw [List.map_cons, LookupResult.firstKnown, ih, atLevel]
    cases found : r.namespaces.getPath? path with
    | none =>
      rw [List.filterMap_cons_none found]
      rfl
    | some node => rw [List.filterMap_cons_some found, LookupResult.firstKnown]

theorem scopeNodes_inNamespace (wf : r.namespaces.WellFormed)
    (found : r.namespaces.getPath? path = some node) :
    r.scopeNodes (.inNamespace path) = r.namespaces.ancestors node := by
  calc r.scopeNodes (.inNamespace path)
      = ((Scope.inNamespace path).namespaces.map r.namespaces.getPath?).filterMap id := by
        rw [scopeNodes, List.filterMap_map, Function.id_comp]
    _ = ((r.namespaces.ancestors node).map some).filterMap id := by
        rw [wf.map_getPath?_namespaces found]
    _ = r.namespaces.ancestors node := by
        rw [List.filterMap_map, Function.id_comp, List.filterMap_some]

/-- A name is looked up in the nodes above a place, then in all that they import. -/
theorem lookupSimple_inNamespace (wf : r.namespaces.WellFormed)
    (found : r.namespaces.getPath? path = some node) (noKeyword : keywordType? name = none) :
    r.lookupSimple (.inNamespace path) name =
      (LookupResult.firstKnown (fun n => r.inNamespace n name)
        (r.namespaces.ancestors node)).orElse fun _ =>
          LookupResult.firstKnown (fun n => r.inNamespace n name)
            ((r.namespaces.ancestors node).flatMap r.namespaces.imports) := by
  -- All levels are namespaces, so the pass over the levels visits the nodes of the second pass.
  simp only [lookupSimple, noKeyword, Scope.levels_eq_map_namespaces, firstKnown_atLevel_space]
  rw [← scopeNodes_inNamespace wf found, scopeNodes]

theorem findType?_of_getPath? (found : r.namespaces.getPath? path = some node)
    (simple : Path.splitLast? name = none) :
    r.findType? path name =
      (r.namespaces.ancestors node).findSome? fun n => r.typeIn? n name := by
  simp only [findType?, simple, found, Option.getD_some]

end Registry

/-- In every tree that paths and directives build, the namespaces of a scope are the nodes from its
own up to the root. Whatever is declared in these nodes and whatever they import, names are looked
up from the scope in exactly these nodes, and so are the types that template defaults name. -/
theorem scope_follows_ancestors {tree : NamespaceTree} (built : tree.Built) {path : String}
    {node : Nat} (found : tree.getPath? path = some node) :
    (Scope.inNamespace path).namespaces.map tree.getPath? = (tree.ancestors node).map some ∧
      (tree.ancestors node).head? = some node ∧
      (tree.ancestors node).getLast? = some NamespaceTree.root ∧
      ∀ r : Registry, r.namespaces.places = tree.places → ∀ name,
        (Registry.keywordType? name = none →
          r.lookupSimple (.inNamespace path) name =
            (LookupResult.firstKnown (fun n => r.inNamespace n name)
              (tree.ancestors node)).orElse fun _ =>
                LookupResult.firstKnown (fun n => r.inNamespace n name)
                  ((tree.ancestors node).flatMap r.namespaces.imports)) ∧
          (Path.splitLast? name = none →
            r.findType? path name =
              (tree.ancestors node).findSome? fun n => r.typeIn? n name) := by
  have wf := built.wellFormed
  refine ⟨wf.map_getPath?_namespaces found, tree.head?_ancestors node,
    wf.getLast?_ancestors (wf.lt_length_of_walk? found), ?_⟩
  intro r same name
  -- Declared names and imports have no part in where paths lead and in which nodes lie above.
  have foundHere : r.namespaces.getPath? path = some node := by
    rw [NamespaceTree.getPath?_congr same, found]
  have ancestors : r.namespaces.ancestors node = tree.ancestors node :=
    NamespaceTree.ancestors_congr fun m _ => NamespaceTree.place?_congr same m
  rw [← ancestors]
  exact ⟨Registry.lookupSimple_inNamespace (wf.congr same) foundHere,
    Registry.findType?_of_getPath? foundHere⟩

/-- The namespaces of `cyclic`, with a type declared in the outermost. -/
def withUnit : Registry where
  namespaces := NamespaceTree.cyclic.modifyNames 1 fun names =>
    { names with types := names.types.insert "Unit" ⟨7⟩ }

/-- From the innermost namespace, under a path with empty segments and stray colons, the type is
found both ways. -/
theorem scope_follows_ancestors_cyclic :
    (Scope.inNamespace "::a:::b::::c:").namespaces = ["a:::b::c:", "a:::b", "a", ""] ∧
      NamespaceTree.cyclic.Built ∧
      NamespaceTree.cyclic.getPath? "::a:::b::::c:" = some 3 ∧
      NamespaceTree.cyclic.ancestors 3 = [3, 2, 1, 0] ∧
      withUnit.lookupSimple (.inNamespace "::a:::b::::c:") "Unit" = .type (.simple ⟨7⟩) ∧
      withUnit.findType? "::a:::b::::c:" "Unit" = some ⟨7⟩ := by
  have found : NamespaceTree.cyclic.getPath? "::a:::b::::c:" = some 3 := by decide
  obtain ⟨agree, -, -, searches⟩ := scope_follows_ancestors NamespaceTree.cyclic_built found
  have nodes : NamespaceTree.cyclic.ancestors 3 = [3, 2, 1, 0] := by
    refine List.map_injective_iff.mpr (fun _ _ => Option.some.inj) (agree.symm.trans ?_)
    decide
  obtain ⟨looked, named⟩ := searches withUnit (NamespaceTree.places_modifyNames ..) "Unit"
  refine ⟨by decide, NamespaceTree.cyclic_built, found, nodes, ?_, ?_⟩
  · rw [looked (by decide), nodes]
    decide
  · rw [named (by decide), nodes]
    decide

end ScriptSemantics
