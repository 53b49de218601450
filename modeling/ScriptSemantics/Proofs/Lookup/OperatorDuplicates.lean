import ScriptSemantics.Lookup.Operators
import ScriptSemantics.Proofs.Overload.Selection
import ScriptSemantics.Proofs.Registry.Filing

/-!
# Operator Candidates Without Duplicates

The candidates of an operator come from several places, and the same function or functions with the
same owner and signature may come more than once. On request only the first of them is kept. That
changes the candidates of a call, and it must not take away the one that the call would select:

1. What is kept is described by `Registry.KeepsFirsts`: every place of the full list is kept, or an
   equivalent candidate in front of it is.
2. A call cannot tell equivalent functions apart but by their identity
   (`Candidate.evaluate_of_interchangeable`), if they have no default arguments and take an object
   exactly if they have an owner (`FunctionDecl.Plain`).
3. The candidate that a call selects dominates all others, and no candidate dominates one that is
   like itself. So nothing equivalent stands in front of it, and it is kept.

The main statement is `deduplication_loses_no_call`. The owner does not settle whether a function
takes an object: static members and constructors take none. A constructor is never filed as an
operator, but the declaration behind an operator may be replaced by one, and then a call is lost
(`constructor_hides_operator`).
-/

namespace ScriptSemantics

/-! ## What is kept -/

namespace Registry

variable {r : Registry} {kept found : List TypeHash} {a b hash : TypeHash}

/-- The same function, or functions with the same owner, constness and parameter types. -/
def Equivalent (r : Registry) (a b : TypeHash) : Prop :=
  a = b ∨ ∃ f g, r.function? a = some f ∧ r.function? b = some g ∧ f.owner = g.owner ∧
    f.isConst = g.isConst ∧ f.params.map Param.dataType = g.params.map Param.dataType

theorem sameCandidate_iff : r.sameCandidate a b = true ↔ r.Equivalent a b := by
  unfold sameCandidate Equivalent
  cases r.function? a with
  | none => simp
  | some f => cases r.function? b <;> simp [FunctionDecl.sameSignature]

/-- One step: keep a candidate unless an equivalent one is kept already. -/
def keepNew (r : Registry) (kept : List TypeHash) (hash : TypeHash) : List TypeHash :=
  if kept.any fun k => r.sameCandidate k hash then kept else kept ++ [hash]

theorem removeDuplicates_eq_foldl (r : Registry) (found : List TypeHash) :
    r.removeDuplicates found = found.foldl r.keepNew [] := rfl

theorem keepNew_of_equivalent (member : a ∈ kept) (same : r.Equivalent a hash) :
    r.keepNew kept hash = kept := by
  rw [keepNew, if_pos]
  exact List.any_eq_true.mpr ⟨a, member, sameCandidate_iff.mpr same⟩

theorem keepNew_of_new (isNew : ∀ k ∈ kept, ¬r.Equivalent k hash) :
    r.keepNew kept hash = kept ++ [hash] := by
  rw [keepNew, if_neg]
  rw [List.any_eq_true]
  rintro ⟨k, member, same⟩
  exact isNew k member (sameCandidate_iff.mp same)

/-- What is kept stays, and some of the candidates are added behind it. -/
theorem foldl_keepNew (r : Registry) (kept found : List TypeHash) :
    ∃ added, found.foldl r.keepNew kept = kept ++ added ∧ added.Sublist found := by
  induction found generalizing kept with
  | nil => exact ⟨[], (List.append_nil kept).symm, .slnil⟩
  | cons hash found ih =>
    rw [List.foldl_cons]
    by_cases known : ∃ k ∈ kept, r.Equivalent k hash
    · obtain ⟨k, member, same⟩ := known
      obtain ⟨added, result, among⟩ := ih kept
      rw [keepNew_of_equivalent member same]
      exact ⟨added, result, among.cons hash⟩
    · obtain ⟨added, result, among⟩ := ih (kept ++ [hash])
      rw [keepNew_of_new fun k member same => known ⟨k, member, same⟩]
      refine ⟨hash :: added, ?_, among.cons_cons hash⟩
      rw [result, List.append_assoc, List.singleton_append]

theorem pairwise_foldl_keepNew (distinct : kept.Pairwise fun a b => ¬r.Equivalent a b) :
    (found.foldl r.keepNew kept).Pairwise fun a b => ¬r.Equivalent a b := by
  induction found generalizing kept with
  | nil => exact distinct
  | cons hash found ih =>
    apply ih
    by_cases known : ∃ k ∈ kept, r.Equivalent k hash
    · obtain ⟨k, member, same⟩ := known
      rwa [keepNew_of_equivalent member same]
    · -- A new candidate goes behind those kept, and is unlike each of them.
      have isNew : ∀ k ∈ kept, ¬r.Equivalent k hash := fun k member same => known ⟨k, member, same⟩
      rw [keepNew_of_new isNew, List.pairwise_append]
      refine ⟨distinct, List.pairwise_singleton _ _, fun k member other isHash => ?_⟩
      rw [List.mem_singleton.mp isHash]
      exact isNew k member

/-- The first of each kind of equivalent candidates is kept, in the order of the full list. -/
structure KeepsFirsts (r : Registry) (found kept : List TypeHash) : Prop where
  sublist : kept.Sublist found
  distinct : kept.Pairwise fun a b => ¬r.Equivalent a b
  /-- A place of the full list is kept, or an equivalent candidate in front of it is. -/
  covered : ∀ front hash back, found = front ++ hash :: back →
    (∃ before after, kept = before ++ hash :: after ∧ before.Sublist front ∧ after.Sublist back) ∨
      ∃ k ∈ front, k ∈ kept ∧ r.Equivalent k hash

theorem removeDuplicates_sublist (r : Registry) (found : List TypeHash) :
    (r.removeDuplicates found).Sublist found := by
  obtain ⟨added, result, among⟩ := r.foldl_keepNew [] found
  rw [removeDuplicates_eq_foldl, result]
  exact among

theorem keepsFirsts_removeDuplicates (r : Registry) (found : List TypeHash) :
    r.KeepsFirsts found (r.removeDuplicates found) where
  sublist := r.removeDuplicates_sublist found
  distinct := pairwise_foldl_keepNew .nil
  covered front hash back split := by
    subst split
    -- What the candidates in front leave behind, the candidate itself, and then the rest.
    obtain ⟨after, result, among⟩ :=
      r.foldl_keepNew (r.keepNew (r.removeDuplicates front) hash) back
    have whole : r.removeDuplicates (front ++ hash :: back) =
        r.keepNew (r.removeDuplicates front) hash ++ after := by
      rw [← result, removeDuplicates_eq_foldl, List.foldl_append, List.foldl_cons,
        ← removeDuplicates_eq_foldl]
    by_cases known : ∃ k ∈ r.removeDuplicates front, r.Equivalent k hash
    · obtain ⟨k, member, same⟩ := known
      refine .inr ⟨k, (r.removeDuplicates_sublist front).subset member, ?_, same⟩
      rw [whole, keepNew_of_equivalent member same]
      exact List.mem_append_left after member
    · refine .inl ⟨r.removeDuplicates front, after, ?_, r.removeDuplicates_sublist front, among⟩
      rw [whole, keepNew_of_new fun k member same => known ⟨k, member, same⟩, List.append_assoc,
        List.singleton_append]

theorem removeDuplicates_of_distinct (distinct : kept.Pairwise fun a b => ¬r.Equivalent a b) :
    r.removeDuplicates kept = kept := by
  -- Induction from the end, as candidates are judged by what was kept in front of them.
  induction kept using List.reverseRecOn with
  | nil => rfl
  | append_singleton kept hash ih =>
    rw [List.pairwise_append] at distinct
    obtain ⟨distinct, -, isNew⟩ := distinct
    rw [removeDuplicates_eq_foldl, List.foldl_append, ← removeDuplicates_eq_foldl, ih distinct]
    exact keepNew_of_new fun k member => isNew k member hash (List.mem_singleton_self hash)

end Registry

/-! ## What a call sees of a function -/

namespace FunctionDecl

variable {f g : FunctionDecl}

/-- A function that is called with all its arguments, and on an object exactly if it has an
owner. -/
structure Plain (f : FunctionDecl) : Prop where
  noDefaults : ∀ param ∈ f.params, param.hasDefault = false
  notStatic : f.traits.isStatic = false
  notConstructor : f.isConstructor = false

/-- Functions that are matched against a call in the same way. -/
structure Interchangeable (f g : FunctionDecl) : Prop where
  implicit : g.hasImplicitObject = f.hasImplicitObject
  object : g.objectType = f.objectType
  required : g.minArgs = f.minArgs
  types : g.params.map Param.dataType = f.params.map Param.dataType

theorem Plain.hasImplicitObject_eq (plain : f.Plain) : f.hasImplicitObject = f.owner.isSome := by
  simp [hasImplicitObject, plain.notStatic, plain.notConstructor]

theorem Plain.minArgs_eq (plain : f.Plain) : f.minArgs = f.params.length := by
  have whole : f.params.reverse.dropWhile Param.hasDefault = f.params.reverse := by
    rw [List.dropWhile_eq_self_iff]
    intro some
    rw [Bool.not_eq_true]
    exact plain.noDefaults _ (List.mem_reverse.mp (List.getElem_mem some))
  rw [minArgs, whole, List.length_reverse]

theorem Plain.interchangeable (hf : f.Plain) (hg : g.Plain) (owner : g.owner = f.owner)
    (constness : g.isConst = f.isConst)
    (types : g.params.map Param.dataType = f.params.map Param.dataType) : f.Interchangeable g where
  implicit := by rw [hf.hasImplicitObject_eq, hg.hasImplicitObject_eq, owner]
  object := by rw [objectType, objectType, owner, constness]
  required := by
    rw [hf.minArgs_eq, hg.minArgs_eq]
    simpa using congrArg List.length types
  types := types

end FunctionDecl

namespace Candidate

variable {r : Registry} {mode : ImplicitObject} {f g : FunctionDecl} {arguments : List Argument}

/-- Of the parameters, only the types count. -/
theorem bindArguments_congr {params params' : List Param}
    (types : params'.map Param.dataType = params.map Param.dataType) (index : Nat)
    (arguments : List Argument) :
    bindArguments r index params' arguments = bindArguments r index params arguments := by
  induction params generalizing params' index arguments with
  | nil =>
    rw [List.map_nil, List.map_eq_nil_iff] at types
    rw [types]
  | cons param params ih =>
    obtain ⟨param', params', rfl, first, others⟩ := List.map_eq_cons_iff.mp types
    cases arguments with
    | nil => rfl
    | cons argument arguments => simp only [bindArguments, first, ih others]

/-- Interchangeable functions get the same verdict. -/
theorem evaluate_of_interchangeable (same : f.Interchangeable g) :
    evaluate r mode g arguments =
      (evaluate r mode f arguments).map fun c => { c with function := g.hash } := by
  have offsets : offset mode g = offset mode f := by rw [offset, offset, same.implicit]
  have objects : objectOf? mode g arguments = objectOf? mode f arguments := by
    rw [objectOf?, objectOf?, same.implicit]
  have bound : bindObject r g = bindObject r f := by
    funext t
    cases t with
    | none => rfl
    | some t => simp only [bindObject, same.object]
  have counts : g.maxArgs = f.maxArgs := by
    simpa [FunctionDecl.maxArgs] using congrArg List.length same.types
  simp only [evaluate_eq, offsets, objects, bound, counts, same.required,
    bindArguments_congr same.types]
  -- Each step ends in the same way on both sides.
  split
  · rfl
  · split
    · rfl
    · cases bindObject r f (objectOf? mode f arguments) with
      | error viability => rfl
      | ok object =>
        cases bindArguments r (offset mode f) f.params (arguments.drop (offset mode f)) <;> rfl

/-- A candidate does not dominate one that is like itself, whatever function that stands for. -/
theorem not_dominates_withFunction (mode : ImplicitObject) (c : Candidate) (function : TypeHash) :
    ¬Dominates mode c { c with function := function } := by
  rw [← dominates_iff, Bool.not_eq_true]
  exact not_dominates_self mode c

end Candidate

/-! ## Calls -/

namespace Resolution

open Candidate

variable {r : Registry} {mode : ImplicitObject} {arguments : Arguments}
  {found kept : List TypeHash} {hash other : TypeHash} {c : Candidate}

/-- Equivalent functions are viable in the same way. -/
theorem evaluate_of_equivalent (same : r.Equivalent other hash)
    (plain : ∀ f, r.function? hash = some f → f.Plain)
    (plainOther : ∀ f, r.function? other = some f → f.Plain)
    (isViable : evaluate r mode arguments hash = .ok c) :
    ∃ function, evaluate r mode arguments other = .ok { c with function := function } := by
  rcases same with rfl | ⟨f, g, knownF, knownG, owner, constness, types⟩
  · exact ⟨c.function, isViable⟩
  · have interchangeable :=
      (plain g knownG).interchangeable (plainOther f knownF) owner constness types
    refine ⟨f.hash, ?_⟩
    simp only [evaluate, knownG] at isViable
    simp only [evaluate, knownF, evaluate_of_interchangeable interchangeable, isViable]
    rfl

theorem viable_sublist (among : kept.Sublist found) :
    (viable r mode kept arguments).Sublist (viable r mode found arguments) :=
  among.filterMap _

/-- The winner among all candidates is kept, and wins among those that are kept. -/
theorem ofViable_kept (firsts : r.KeepsFirsts found kept)
    (plain : ∀ hash ∈ found, ∀ f, r.function? hash = some f → f.Plain)
    (won : Selection.ofViable mode (viable r mode found arguments) = .winner c) :
    Selection.ofViable mode (viable r mode kept arguments) = .winner c := by
  rw [Selection.ofViable_eq_winner_iff] at won ⊢
  obtain ⟨front, back, split, dominant⟩ := won
  obtain ⟨before, hash, after, rfl, isViable, rfl, rfl⟩ := exists_place_of_viable split
  rcases firsts.covered before hash after rfl with
    ⟨keptBefore, keptAfter, rfl, amongBefore, amongAfter⟩ | ⟨k, inFront, -, same⟩
  · -- The winner has its place, and fewer others around it.
    refine ⟨viable r mode keptBefore arguments, viable r mode keptAfter arguments, ?_, ?_⟩
    · rw [viable_append, viable_cons isViable]
    · intro d member
      apply dominant d
      exact ((viable_sublist amongBefore).append (viable_sublist amongAfter)).subset member
  · -- An equivalent candidate in front of the winner is like it and would have to be dominated.
    obtain ⟨function, alsoViable⟩ := evaluate_of_equivalent same (plain hash (by simp))
      (plain k (List.mem_append_left _ inFront)) isViable
    have beaten := dominant _ (List.mem_append_left _ (mem_viable.mpr ⟨k, inFront, alsoViable⟩))
    exact absurd beaten (not_dominates_withFunction mode c function)

theorem succeeded_kept (firsts : r.KeepsFirsts found kept)
    (plain : ∀ hash ∈ found, ∀ f, r.function? hash = some f → f.Plain) {m : OverloadMatch}
    (succeeded : (resolve r mode found arguments).outcome = .succeeded m) :
    (resolve r mode kept arguments).outcome = .succeeded m := by
  rw [resolve, outcomeOf_eq_succeeded_iff] at succeeded ⊢
  obtain ⟨c, won, isMatch⟩ := succeeded
  exact ⟨c, ofViable_kept firsts plain won, isMatch⟩

end Resolution

/-! ## Where candidates come from -/

/-- The operator whose functions a list holds. -/
def FunctionList.operator? : FunctionList → Option OperatorKind
  | .builtin op | .space _ (.operators op) => some op
  | .member _ _ | .space _ (.overloads _) => none

namespace FunctionDecl

variable {f : FunctionDecl} {op : OperatorKind}

theorem kind_of_operator? (isOperator : f.operator? = some op) : f.kind = .operator op := by
  unfold operator? at isOperator
  split at isOperator
  · rename_i kind
    rw [kind, Option.some.inj isOperator]
  · cases isOperator

theorem kind_of_spaceList? (isOperator : f.spaceList? = some (.operators op)) :
    f.kind = .operator op := by
  unfold spaceList? at isOperator
  split at isOperator
  · rename_i kind
    cases isOperator
    exact kind
  · cases isOperator
  · cases isOperator

end FunctionDecl

namespace Registry

variable {r : Registry} {fs : List FunctionDecl} {f : FunctionDecl} {op : OperatorKind}
  {hash : TypeHash} {list : FunctionList}

/-- Only operators belong in the lists of operators. -/
theorem kind_of_listOf? (belongs : r.listOf? f = some list) (operators : list.operator? = some op) :
    f.kind = .operator op := by
  unfold listOf? at belongs
  -- Members are listed with their class, built-in operators apart, and all others in a namespace.
  split at belongs
  · obtain ⟨_, -, rfl⟩ := Option.map_eq_some_iff.mp belongs
    cases operators
  · split at belongs
    · obtain ⟨own, isOperator, rfl⟩ := Option.map_eq_some_iff.mp belongs
      cases operators
      exact FunctionDecl.kind_of_operator? isOperator
    · obtain ⟨node, -, inSpace⟩ := Option.bind_eq_some_iff.mp belongs
      obtain ⟨own, isListed, rfl⟩ := Option.map_eq_some_iff.mp inSpace
      cases own with
      | overloads => cases operators
      | operators =>
        cases operators
        exact FunctionDecl.kind_of_spaceList? isListed

theorem operatorsIn_eq_listed (r : Registry) (op : OperatorKind) (node : Nat) :
    r.operatorsIn op node = r.listed (.space node (.operators op)) := by
  simp only [operatorsIn, listed, NamespaceTree.namesAt, NamespaceNames.functionsIn]
  cases r.namespaces.names? node with
  | none => rfl
  | some names => rfl

/-- As long as functions are only registered, the candidates of an operator are functions of that
operator. -/
theorem Files.kind_of_candidate (files : r.Files fs) (known : r.function? hash = some f)
    {operands : List DataType} {scope : Scope} {options : OperatorOptions}
    (keepsAll : options.removeDuplicates = false)
    (member : hash ∈ r.operatorCandidates op operands scope options) : f.kind = .operator op := by
  have ofListed (list : FunctionList) (operators : list.operator? = some op)
      (listed : hash ∈ r.listed list) : f.kind = .operator op := by
    obtain ⟨isThere, rfl⟩ := (files.function?_eq_some_iff hash f).mp known
    exact kind_of_listOf? ((files.mem_listed_iff isThere list).mp listed) operators
  simp only [operatorCandidates, keepsAll, Bool.false_eq_true, if_false, List.mem_append,
    List.mem_flatMap] at member
  rcases member with (builtin | ⟨node, -, free⟩) | ⟨owner, -, method⟩
  · exact ofListed (.builtin op) rfl builtin
  · rw [operatorsIn_eq_listed] at free
    exact ofListed (.space node (.operators op)) rfl free
  · -- Methods are sorted by their kind.
    obtain ⟨g, isMethod, rfl⟩ := List.mem_map.mp method
    obtain ⟨listed, isOperator⟩ := List.mem_filter.mp isMethod
    obtain ⟨_, -, knownG⟩ := List.mem_filterMap.mp listed
    obtain ⟨-, rfl⟩ := (files.function?_eq_some_iff _ g).mp knownG
    cases known.symm.trans knownG
    simpa using isOperator

end Registry

/-! ## The main statement -/

namespace Resolution

/-- **Dropping duplicates loses no call.** The candidates of an operator that are kept are some of
those found, in their order. No two of them are equivalent, every place that is dropped has an
equivalent candidate in front of it that is kept, and dropping duplicates again changes nothing. If
the candidates have no default arguments and are neither static nor constructors, a call that
succeeds among all of them succeeds among those kept, with the same match. As long as functions are
only registered, the candidates are functions of the operator, so that there is no constructor among
them. -/
theorem deduplication_loses_no_call {r : Registry} {op : OperatorKind} {operands : List DataType}
    {scope : Scope} (options : OperatorOptions) {found kept : List TypeHash}
    (gathered : found =
      r.operatorCandidates op operands scope { options with removeDuplicates := false })
    (deduplicated : kept =
      r.operatorCandidates op operands scope { options with removeDuplicates := true }) :
    r.KeepsFirsts found kept ∧ r.removeDuplicates kept = kept ∧
      ((∀ hash ∈ found, ∀ f, r.function? hash = some f → f.Plain) →
        ∀ mode arguments m, (resolve r mode found arguments).outcome = .succeeded m →
          (resolve r mode kept arguments).outcome = .succeeded m) ∧
      ∀ fs, r.Files fs → ∀ hash ∈ found, ∀ f, r.function? hash = some f →
        f.kind = .operator op ∧ f.isConstructor = false := by
  have firsts : r.KeepsFirsts found kept := by
    have result : kept = r.removeDuplicates found := by rw [gathered, deduplicated]; rfl
    rw [result]
    exact r.keepsFirsts_removeDuplicates found
  refine ⟨firsts, Registry.removeDuplicates_of_distinct firsts.distinct, ?_, ?_⟩
  · intro plain mode arguments m succeeded
    exact succeeded_kept firsts plain succeeded
  · intro fs files hash member f known
    have kind : f.kind = .operator op := files.kind_of_candidate known rfl (gathered ▸ member)
    refine ⟨kind, ?_⟩
    rw [FunctionDecl.isConstructor, kind]
    rfl

theorem exists_of_selected? {resolution : Resolution} {hash : TypeHash}
    (selected : resolution.selected? = some hash) :
    ∃ m, resolution.outcome = .succeeded m ∧ m.function = hash := by
  obtain ⟨m, isMatch, isHash⟩ := Option.map_eq_some_iff.mp selected
  unfold match? at isMatch
  split at isMatch
  · rename_i succeeded
    cases isMatch
    exact ⟨m, succeeded, isHash⟩
  · cases isMatch

/-! Two namespaces have a product of characters each, and the inner one has a product of numbers. -/

def productOf (hash : TypeHash) (path : String) (kind : FundamentalKind) : FunctionDecl where
  hash := hash
  name := "*"
  path := path
  kind := .operator .mul
  params := [{ dataType := .ofKind kind }, { dataType := .ofKind kind }]

theorem plain_productOf (hash : TypeHash) (path : String) (kind : FundamentalKind) :
    (productOf hash path kind).Plain where
  noDefaults param member := by
    simp only [productOf, List.mem_cons, List.not_mem_nil, or_false, or_self] at member
    rw [member]
  notStatic := rfl
  notConstructor := rfl

def products : Registry :=
  [.registerType (.fundamental .char), .registerType (.fundamental .int),
    .registerFunction (productOf ⟨11⟩ "" .char), .registerFunction (productOf ⟨12⟩ "lib" .char),
    .registerFunction (productOf ⟨13⟩ "lib" .int)].foldl RegistryOp.run {}

/-- The outer product of characters is dropped, and the product of numbers is selected as before. -/
theorem deduplication_loses_no_call_products :
    products.operatorCandidates .mul [] (.inNamespace "lib") { useScope := true } =
        [⟨12⟩, ⟨13⟩, ⟨11⟩] ∧
      products.operatorCandidates .mul [] (.inNamespace "lib")
        { useScope := true, removeDuplicates := true } = [⟨12⟩, ⟨13⟩] ∧
      ∃ m, m.function = ⟨13⟩ ∧
        (resolve products .firstArgument [⟨12⟩, ⟨13⟩, ⟨11⟩]
          (.types [.ofKind .int, .ofKind .int])).outcome = .succeeded m ∧
        (resolve products .firstArgument [⟨12⟩, ⟨13⟩]
          (.types [.ofKind .int, .ofKind .int])).outcome = .succeeded m := by
  have gathered : [⟨12⟩, ⟨13⟩, ⟨11⟩] = products.operatorCandidates .mul [] (.inNamespace "lib")
      { useScope := true } := by cbv
  have deduplicated : [⟨12⟩, ⟨13⟩] = products.operatorCandidates .mul [] (.inNamespace "lib")
      { useScope := true, removeDuplicates := true } := by cbv
  have selected : (resolve products .firstArgument [⟨12⟩, ⟨13⟩, ⟨11⟩]
      (.types [.ofKind .int, .ofKind .int])).selected? = some ⟨13⟩ := by cbv
  obtain ⟨-, -, calls, -⟩ := deduplication_loses_no_call { useScope := true } gathered deduplicated
  obtain ⟨m, succeeded, isThird⟩ := exists_of_selected? selected
  refine ⟨gathered.symm, deduplicated.symm, m, isThird, succeeded, calls ?_ _ _ m succeeded⟩
  have known : products.function? ⟨11⟩ = some (productOf ⟨11⟩ "" .char) ∧
      products.function? ⟨12⟩ = some (productOf ⟨12⟩ "lib" .char) ∧
      products.function? ⟨13⟩ = some (productOf ⟨13⟩ "lib" .int) := by decide
  obtain ⟨outer, inner, numbers⟩ := known
  intro hash member f found
  simp only [List.mem_cons, List.not_mem_nil, or_false] at member
  rcases member with rfl | rfl | rfl
  · cases inner.symm.trans found
    exact plain_productOf _ _ _
  · cases numbers.symm.trans found
    exact plain_productOf _ _ _
  · cases outer.symm.trans found
    exact plain_productOf _ _ _

/-! A class with a product, and a free product whose declaration was replaced by a constructor of
the class. -/

/-- A member of the class that takes a number. -/
def scaleMember (hash : TypeHash) (name : String) (kind : FunctionKind) : FunctionDecl where
  hash := hash
  name := name
  kind := kind
  params := [{ dataType := .ofKind .int }]
  owner := some ⟨1⟩

def replaced : Registry :=
  [.registerType (.fundamental .int),
    .registerType (.classType { hash := ⟨1⟩, name := "Scale", qualifiedName := "Scale" }),
    .registerFunction (productOf ⟨11⟩ "" .int),
    .registerFunction (scaleMember ⟨12⟩ "*" (.operator .mul)),
    .updateFunction (scaleMember ⟨11⟩ "$ctor" .constructor)].foldl RegistryOp.run {}

/-- Neither candidate has default arguments or is static. The constructor stands for the product of
the class, whose owner and signature it has, and does not take an object: a call that succeeds among
both fails without duplicates. -/
theorem constructor_hides_operator :
    (∀ hash ∈ replaced.operatorCandidates .mul [.simple ⟨1⟩, .ofKind .int] .global {},
        ∀ f, replaced.function? hash = some f →
          (∀ param ∈ f.params, param.hasDefault = false) ∧ f.traits.isStatic = false) ∧
      (∃ m, (resolve replaced .firstArgument
        (replaced.operatorCandidates .mul [.simple ⟨1⟩, .ofKind .int] .global {})
        (.types [.simple ⟨1⟩, .ofKind .int])).outcome = .succeeded m) ∧
      (resolve replaced .firstArgument
        (replaced.operatorCandidates .mul [.simple ⟨1⟩, .ofKind .int] .global
          { removeDuplicates := true })
        (.types [.simple ⟨1⟩, .ofKind .int])).outcome = .noViableCandidate := by
  refine ⟨?_, ?_, ?_⟩
  · have gathered : replaced.operatorCandidates .mul [.simple ⟨1⟩, .ofKind .int] .global {} =
        [⟨11⟩, ⟨12⟩] := by cbv
    have known : replaced.function? ⟨11⟩ = some (scaleMember ⟨11⟩ "$ctor" .constructor) ∧
        replaced.function? ⟨12⟩ = some (scaleMember ⟨12⟩ "*" (.operator .mul)) := by decide
    rw [gathered]
    intro hash member f found
    simp only [List.mem_cons, List.not_mem_nil, or_false] at member
    rcases member with rfl | rfl
    · cases known.1.symm.trans found
      simp [scaleMember]
    · cases known.2.symm.trans found
      simp [scaleMember]
  · have selected : (resolve replaced .firstArgument
        (replaced.operatorCandidates .mul [.simple ⟨1⟩, .ofKind .int] .global {})
        (.types [.simple ⟨1⟩, .ofKind .int])).selected? = some ⟨12⟩ := by cbv
    obtain ⟨m, succeeded, -⟩ := exists_of_selected? selected
    exact ⟨m, succeeded⟩
  · cbv

end Resolution

end ScriptSemantics
