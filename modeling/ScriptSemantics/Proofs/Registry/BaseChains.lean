import Mathlib.Data.List.Chain
import Mathlib.Data.List.Nodup
import Mathlib.Data.List.Perm.Subperm
import ScriptSemantics.Proofs.Registry.Inheritance

/-!
# Base Chains

A base may be missing, may be registered after its derived class and may lead back to it. A walk
along base links therefore remembers what it has visited and stops where it would go on to a class
for the second time or to something that is no class. `Walk` is such a walk without a limit on its
length:

1. `Trail` says what a walk has behind it, and each step keeps it (`Trail.step`);
2. a walk takes at most one step for each registered type (`Trail.length_lt`), so it stops, and what
   it has visited then is the base chain (`walksTo_iff`);
3. without cycles the chain of a class goes on as that of its base (`baseChain_of_extends`), so the
   chain of an ancestor is the end of the chain (`exists_append_baseChain`).

The main statement is `baseChain_exact`.
-/

namespace ScriptSemantics.Registry

variable {r : Registry}

/-! ## Walks -/

/-- A walk along base links: the classes visited so far, and where it goes next. -/
structure Walk where
  visited : List TypeHash
  next : Option TypeHash

/-- A walk goes on to a registered class that it has not visited, and from there to its base. -/
inductive WalkStep (r : Registry) : Walk → Walk → Prop where
  | visit {visited : List TypeHash} {hash : TypeHash} {c : ClassDecl} (new : hash ∉ visited)
      (found : r.class? hash = some c) :
      WalkStep r ⟨visited, some hash⟩ ⟨visited ++ [hash], c.base⟩

/-- What a walk from `start` has behind it. -/
structure Trail (r : Registry) (start : TypeHash) (w : Walk) : Prop where
  nodup : w.visited.Nodup
  registered : ∀ h ∈ w.visited, (r.class? h).isSome
  /-- What comes next continues the links of the classes that were visited. -/
  linked : (w.visited ++ w.next.toList).IsChain r.Extends
  starts : (w.visited ++ w.next.toList).head? = some start
  /-- No base link was left out. -/
  followed : ∀ h ∈ w.visited, ∀ base, r.Extends h base → base ∈ w.visited ++ w.next.toList

namespace Trail

variable {start : TypeHash} {w w' : Walk}

theorem new (start : TypeHash) : r.Trail start ⟨[], some start⟩ where
  nodup := .nil
  registered := nofun
  linked := .singleton start
  starts := rfl
  followed := nofun

/-- One step: the class that was next is visited, and its base comes next. -/
theorem step (trail : r.Trail start w) (h : r.WalkStep w w') : r.Trail start w' := by
  obtain @⟨visited, hash, c, new, found⟩ := h
  obtain ⟨nodup, registered, linked, starts, followed⟩ := trail
  simp only [Option.toList_some] at linked starts followed
  refine ⟨?_, ?_, ?_, ?_, ?_⟩
  · rw [List.nodup_append]
    refine ⟨nodup, List.nodup_singleton hash, ?_⟩
    rintro h visitedBefore _ isHash rfl
    rw [List.mem_singleton] at isHash
    exact new (isHash ▸ visitedBefore)
  · intro h member
    rcases List.mem_append.mp member with before | last
    · exact registered h before
    · rw [List.mem_singleton.mp last, found]
      rfl
  · rw [List.isChain_append]
    refine ⟨linked, ?_, ?_⟩
    · cases c.base with
      | none => exact .nil
      | some base => exact .singleton base
    · -- The link from the class that was visited last to its base.
      intro h isLast base isNext
      rw [List.getLast?_concat, Option.mem_some] at isLast
      cases isBase : c.base with
      | none => simp [isBase] at isNext
      | some base' =>
        simp only [isBase, Option.toList_some, List.head?_cons, Option.mem_some] at isNext
        subst isLast isNext
        exact ⟨c, found, isBase⟩
  · rw [List.head?_append, starts]
    rfl
  · intro h member base extends_
    rcases List.mem_append.mp member with before | last
    · exact List.mem_append_left _ (followed h before base extends_)
    · rw [List.mem_singleton.mp last] at extends_
      obtain ⟨c', found', isBase⟩ := extends_
      cases found.symm.trans found'
      simp [isBase]

/-- The run: whatever a walk does, its trail stays behind it. -/
theorem run (trail : r.Trail start w) (h : Relation.ReflTransGen r.WalkStep w w') :
    r.Trail start w' := by
  induction h with
  | refl => exact trail
  | tail _ last ih => exact ih.step last

/-- There is room for one more class among the registered types. -/
theorem length_lt (trail : r.Trail start w) {hash : TypeHash} {c : ClassDecl}
    (new : hash ∉ w.visited) (found : r.class? hash = some c) :
    w.visited.length < r.types.size := by
  -- The visited classes with the new one are different types, and all are registered.
  have nodup : (hash :: w.visited).Nodup := List.nodup_cons.mpr ⟨new, trail.nodup⟩
  have registered : hash :: w.visited ⊆ r.types.keys := by
    intro h member
    have isClass : (r.class? h).isSome := by
      rcases List.mem_cons.mp member with rfl | before
      · rw [found]
        rfl
      · exact trail.registered h before
    obtain ⟨c, found⟩ := Option.isSome_iff_exists.mp isClass
    obtain ⟨decl, known, -⟩ := Option.bind_eq_some_iff.mp found
    exact List.mem_map_of_mem (Table.mem_entries_of_get? known)
  have counted := (List.subperm_of_subset nodup registered).length_le
  rwa [List.length_cons, Table.keys, List.length_map] at counted

end Trail

/-! ## Where a walk ends -/

/-- The walk cannot go on. -/
def Walk.Stops (r : Registry) (w : Walk) : Prop := ∀ w', ¬r.WalkStep w w'

theorem Walk.stops_of_none {visited : List TypeHash} : Walk.Stops r ⟨visited, none⟩ := nofun

theorem Walk.stops_of_refused {visited : List TypeHash} {hash : TypeHash}
    (refused : hash ∉ visited → r.class? hash = none) : Walk.Stops r ⟨visited, some hash⟩ := by
  rintro _ ⟨new, found⟩
  cases found.symm.trans (refused new)

theorem walkStep_rightUnique : Relator.RightUnique r.WalkStep := by
  rintro _ _ _ ⟨-, found⟩ ⟨-, found'⟩
  cases found.symm.trans found'
  rfl

/-- A walk ends in one way only. -/
theorem Walk.Stops.unique {start w w' : Walk} (stops : w.Stops r) (stops' : w'.Stops r)
    (run : Relation.ReflTransGen r.WalkStep start w)
    (run' : Relation.ReflTransGen r.WalkStep start w') : w = w' := by
  -- One of the two ends lies on the way to the other, and there is no way out of either.
  rcases run.total_of_right_unique walkStep_rightUnique run' with onward | onward
  · rcases onward.cases_head with same | ⟨next, step, -⟩
    · exact same
    · exact absurd step (stops next)
  · rcases onward.cases_head with same | ⟨next, step, -⟩
    · exact same.symm
    · exact absurd step (stops' next)

/-- A search that may visit as many classes as there are types left goes the whole walk. By
induction on the number of classes it may visit. -/
theorem exists_walk_chainFrom {start hash : TypeHash} {visited : List TypeHash} {limit : Nat}
    (trail : r.Trail start ⟨visited, some hash⟩) (enough : r.types.size ≤ visited.length + limit) :
    ∃ w, Relation.ReflTransGen r.WalkStep ⟨visited, some hash⟩ w ∧ w.Stops r ∧
      w.visited = visited ++ r.chainFrom limit visited.reverse hash := by
  induction limit generalizing visited hash with
  | zero =>
    -- All registered types are behind the walk, so that there is no new class to go on to.
    refine ⟨_, .refl, Walk.stops_of_refused fun new => ?_, by simp [chainFrom]⟩
    cases found : r.class? hash with
    | none => rfl
    | some c =>
      have less := trail.length_lt new found
      simp only at less
      omega
  | succ limit ih =>
    by_cases old : hash ∈ visited
    · refine ⟨_, .refl, Walk.stops_of_refused fun new => absurd old new, ?_⟩
      simp [chainFrom, old]
    cases found : r.class? hash with
    | none =>
      refine ⟨_, .refl, Walk.stops_of_refused fun _ => found, ?_⟩
      simp [chainFrom, old, found]
    | some c =>
      have step := WalkStep.visit old found
      cases isBase : c.base with
      | none =>
        rw [isBase] at step
        exact ⟨_, .single step, Walk.stops_of_none, by simp [chainFrom, old, found, isBase]⟩
      | some base =>
        -- The class is remembered in both, at the end of the walk and in front in the search.
        rw [isBase] at step
        obtain ⟨w, run, stops, reached⟩ := ih (trail.step step) (by simp; omega)
        refine ⟨w, .head step run, stops, ?_⟩
        simp [reached, chainFrom, old, found, isBase]

/-- The walk from a class stops, and has visited these classes then. -/
def WalksTo (r : Registry) (hash : TypeHash) (chain : List TypeHash) : Prop :=
  ∃ w, Relation.ReflTransGen r.WalkStep ⟨[], some hash⟩ w ∧ w.Stops r ∧ w.visited = chain

/-- **Termination**: every walk stops, and the base chain is what it has visited then. -/
theorem walksTo_iff {hash : TypeHash} {chain : List TypeHash} :
    r.WalksTo hash chain ↔ chain = r.baseChain hash := by
  have ended : r.WalksTo hash (r.baseChain hash) := exists_walk_chainFrom (Trail.new hash) (by simp)
  constructor
  · rintro ⟨w, run, stops, rfl⟩
    obtain ⟨w', run', stops', reached⟩ := ended
    rw [stops.unique stops' run run', reached]
  · rintro rfl
    exact ended

/-! ## What a base chain is -/

/-- The chain of a class by its properties, apart from how it is searched for. -/
structure IsBaseChain (r : Registry) (hash : TypeHash) (chain : List TypeHash) : Prop where
  nodup : chain.Nodup
  eq_nil_iff : chain = [] ↔ r.class? hash = none
  head?_eq : (r.class? hash).isSome → chain.head? = some hash
  /-- Each class is followed by its base. -/
  linked : chain.IsChain r.Extends
  /-- The chain has the classes that are reached by base links, and no others. -/
  mem_iff : ∀ h, h ∈ chain ↔ Relation.ReflTransGen r.Extends hash h ∧ (r.class? h).isSome

/-- Where a walk stops, the next class was visited before or there is none. -/
theorem Walk.Stops.mem_of_next {w : Walk} (stops : w.Stops r) {hash : TypeHash}
    (isNext : hash ∈ w.next.toList) (isClass : (r.class? hash).isSome) : hash ∈ w.visited := by
  obtain ⟨visited, next⟩ := w
  obtain ⟨c, found⟩ := Option.isSome_iff_exists.mp isClass
  cases Option.mem_toList.mp isNext
  by_contra new
  exact stops _ (.visit new found)

theorem isBaseChain_baseChain (r : Registry) (hash : TypeHash) :
    r.IsBaseChain hash (r.baseChain hash) := by
  obtain ⟨w, run, stops, reached⟩ := walksTo_iff.mpr (Eq.refl (r.baseChain hash))
  have reaches : ∀ h ∈ r.baseChain hash, Relation.ReflTransGen r.Extends hash h :=
    fun _ => reaches_of_mem_baseChain
  rw [← reached] at reaches ⊢
  have trail := (Trail.new hash).run run
  -- A class that comes next when the walk stops was visited before, so no class is missing.
  have visited_of_mem : ∀ h ∈ w.visited ++ w.next.toList, (r.class? h).isSome → h ∈ w.visited := by
    intro h member isClass
    rcases List.mem_append.mp member with before | isNext
    · exact before
    · exact stops.mem_of_next isNext isClass
  have start_mem : hash ∈ w.visited ++ w.next.toList := List.mem_of_mem_head? trail.starts
  refine ⟨trail.nodup, ⟨?_, ?_⟩, ?_, trail.linked.left_of_append, fun h => ⟨?_, ?_⟩⟩
  · intro empty
    by_contra isClass
    have member := visited_of_mem hash start_mem (Option.isSome_iff_ne_none.mpr isClass)
    rw [empty] at member
    cases member
  · intro noClass
    -- The first class of a chain would be this one.
    cases begins : w.visited with
    | nil => rfl
    | cons first rest =>
      have starts := trail.starts
      rw [begins, List.cons_append, List.head?_cons, Option.some_inj] at starts
      have isClass := trail.registered first (by rw [begins]; exact List.mem_cons_self)
      rw [starts, noClass] at isClass
      cases isClass
  · intro isClass
    have member := visited_of_mem hash start_mem isClass
    have starts := trail.starts
    rwa [List.head?_append_of_ne_nil _ (List.ne_nil_of_mem member)] at starts
  · intro member
    exact ⟨reaches h member, trail.registered h member⟩
  · rintro ⟨reached, isClass⟩
    induction reached with
    | refl => exact visited_of_mem hash start_mem isClass
    | @tail derived base _ link ih =>
      -- A class with a base is registered, so that it was visited, and its link was followed.
      have derivedClass : (r.class? derived).isSome := by
        obtain ⟨c, found, -⟩ := link
        rw [found]
        rfl
      exact visited_of_mem base (trail.followed derived (ih derivedClass) base link) isClass

/-- The depth of a base is its position in the chain. -/
theorem inheritanceDepth?_eq_some_iff {derived base : TypeHash} {n : Nat} :
    r.inheritanceDepth? derived base = some n ↔ (r.baseChain derived)[n]? = some base := by
  have nodup := (isBaseChain_baseChain r derived).nodup
  rw [inheritanceDepth?, List.findIdx?_eq_some_iff_getElem]
  constructor
  · rintro ⟨inside, here, -⟩
    rw [List.getElem?_eq_getElem inside, eq_of_beq here]
  · intro here
    obtain ⟨inside, here⟩ := List.getElem?_eq_some_iff.mp here
    refine ⟨inside, beq_iff_eq.mpr here, fun j before => ?_⟩
    -- No class stands at two positions.
    rw [beq_iff_eq, ← here, nodup.getElem_inj_iff]
    omega

/-! ## Hierarchies without cycles -/

/-- No class inherits from itself. -/
def Acyclic (r : Registry) : Prop := ∀ h, ¬Relation.TransGen r.Extends h h

/-- Two classes that inherit from each other are one. -/
theorem Acyclic.eq_of_reaches (acyclic : r.Acyclic) {a b : TypeHash}
    (up : Relation.ReflTransGen r.Extends a b) (down : Relation.ReflTransGen r.Extends b a) :
    a = b := by
  rcases Relation.reflTransGen_iff_eq_or_transGen.mp up with same | inherits
  · exact same.symm
  · exact absurd (inherits.trans_left down) (acyclic a)

/-- Without cycles, classes that a walk cannot reach any more do not have to be remembered. -/
theorem Acyclic.chainFrom_eq (acyclic : r.Acyclic) {limit : Nat} {visited : List TypeHash}
    {hash : TypeHash} (behind : ∀ h ∈ visited, ¬Relation.ReflTransGen r.Extends hash h) :
    r.chainFrom limit visited hash = r.chainFrom limit [] hash := by
  induction limit generalizing visited hash with
  | zero => rfl
  | succ limit ih =>
    have new : hash ∉ visited := fun member => behind hash member .refl
    rw [chainFrom, chainFrom, if_neg new, if_neg List.not_mem_nil]
    cases found : r.class? hash with
    | none => rfl
    | some c =>
      cases isBase : c.base with
      | none => simp [isBase]
      | some base =>
        have link : r.Extends hash base := ⟨c, found, isBase⟩
        -- The class itself is behind its base, and so is all that was behind the class.
        have behindBase : ∀ h ∈ hash :: visited, ¬Relation.ReflTransGen r.Extends base h := by
          intro h member reached
          rcases List.mem_cons.mp member with rfl | before
          · exact acyclic h (.head' link reached)
          · exact behind h before (.head link reached)
        have behindAlone : ∀ h ∈ [hash], ¬Relation.ReflTransGen r.Extends base h := by
          intro h member
          exact behindBase h (List.mem_cons.mpr (.inl (List.mem_singleton.mp member)))
        simp only [isBase, ih behindBase, ih behindAlone]

/-- Without cycles the chain of a class goes on as that of its base. -/
theorem Acyclic.baseChain_of_extends (acyclic : r.Acyclic) {hash base : TypeHash}
    (link : r.Extends hash base) : r.baseChain hash = hash :: r.baseChain base := by
  obtain ⟨c, found, isBase⟩ := id link
  have step : r.WalkStep ⟨[], some hash⟩ ⟨[hash], some base⟩ := by
    rw [← isBase]
    exact .visit List.not_mem_nil found
  -- The walk from the class, as it goes on behind its first step.
  obtain ⟨w, run, stops, reached⟩ :=
    @exists_walk_chainFrom r hash base [hash] r.types.size ((Trail.new hash).step step) (by simp)
  have behind : ∀ h ∈ [hash], ¬Relation.ReflTransGen r.Extends base h := by
    intro h member reached
    rw [List.mem_singleton.mp member] at reached
    exact acyclic hash (.head' link reached)
  calc r.baseChain hash
      _ = w.visited := (walksTo_iff.mp ⟨w, .head step run, stops, rfl⟩).symm
      _ = hash :: r.chainFrom r.types.size [hash] base := reached
      _ = hash :: r.baseChain base := by rw [acyclic.chainFrom_eq behind, baseChain]

/-- Without cycles the chain of an ancestor is the end of the chain. -/
theorem Acyclic.exists_append_baseChain (acyclic : r.Acyclic) {derived base : TypeHash}
    (reached : Relation.ReflTransGen r.Extends derived base) :
    ∃ before, r.baseChain derived = before ++ r.baseChain base := by
  induction reached using Relation.ReflTransGen.head_induction_on with
  | refl => exact ⟨[], rfl⟩
  | @head derived next link _ ih =>
    obtain ⟨before, split⟩ := ih
    exact ⟨derived :: before, by rw [acyclic.baseChain_of_extends link, split, List.cons_append]⟩

/-- Without cycles a chain is from each of its classes on the chain of that class. -/
theorem Acyclic.baseChain_of_split (acyclic : r.Acyclic) {derived base : TypeHash}
    {before bases : List TypeHash} (split : r.baseChain derived = before ++ base :: bases) :
    r.baseChain base = base :: bases := by
  have member : base ∈ r.baseChain derived := by simp [split]
  have isClass := (((isBaseChain_baseChain r derived).mem_iff base).mp member).2
  obtain ⟨before', split'⟩ := acyclic.exists_append_baseChain (reaches_of_mem_baseChain member)
  obtain ⟨rest, begins⟩ : ∃ rest, r.baseChain base = base :: rest :=
    List.head?_eq_some_iff.mp ((isBaseChain_baseChain r base).head?_eq isClass)
  -- The class stands in the chain once, so that both splits are the same.
  have nodup := (isBaseChain_baseChain r derived).nodup
  rw [split', begins] at nodup
  obtain ⟨-, fresh, apart⟩ := List.nodup_append.mp nodup
  have notBefore : base ∉ before' := fun inside => apart base inside base List.mem_cons_self rfl
  rw [split', begins, List.append_cons_inj_of_notMem notBefore (List.nodup_cons.mp fresh).1]
    at split
  rw [begins, split.2.2]

/-- The classes in front of the chain of an ancestor are as many as the steps up to it. -/
theorem length_of_append_baseChain {derived base : TypeHash} {before : List TypeHash} {n : Nat}
    (split : r.baseChain derived = before ++ r.baseChain base)
    (depth : r.inheritanceDepth? derived base = some n) : before.length = n := by
  have isClass := ((isBaseChain_baseChain r derived).mem_iff base).mp
    (mem_baseChain_of_inheritanceDepth? depth) |>.2
  -- The chain of the ancestor starts with it, so that it stands behind those in front.
  have here : (r.baseChain derived)[before.length]? = some base := by
    rw [split, List.getElem?_append_right (Nat.le_refl _), Nat.sub_self, ← List.head?_eq_getElem?]
    exact (isBaseChain_baseChain r base).head?_eq isClass
  exact Option.some.inj ((inheritanceDepth?_eq_some_iff.mpr here).symm.trans depth)

/-- Without cycles depths add up along the hierarchy. -/
theorem Acyclic.inheritanceDepth?_add (acyclic : r.Acyclic) {a b c : TypeHash} {m n : Nat}
    (first : r.inheritanceDepth? a b = some m) (second : r.inheritanceDepth? b c = some n) :
    r.inheritanceDepth? a c = some (m + n) := by
  have reached := reaches_of_mem_baseChain (mem_baseChain_of_inheritanceDepth? first)
  obtain ⟨before, split⟩ := acyclic.exists_append_baseChain reached
  rw [inheritanceDepth?_eq_some_iff] at second ⊢
  rw [split, ← length_of_append_baseChain split first, List.getElem?_append_right (by omega),
    Nat.add_sub_cancel_left, second]

/-- A hierarchy in which every base ranks below its class has no cycles. -/
theorem acyclic_of_rank (rank : TypeHash → Nat)
    (descends : ∀ entry ∈ r.types.entries, ∀ base ∈ entry.2.class?.bind ClassDecl.base,
      rank base < rank entry.1) : r.Acyclic := by
  have below : ∀ derived base, Relation.TransGen r.Extends derived base →
      rank base < rank derived := by
    intro derived base inherits
    have step : ∀ derived base, r.Extends derived base → rank base < rank derived := by
      rintro derived base ⟨c, found, isBase⟩
      obtain ⟨decl, known, isClass⟩ := Option.bind_eq_some_iff.mp found
      refine descends _ (Table.mem_entries_of_get? known) base ?_
      rw [isClass]
      exact isBase
    induction inherits with
    | single link => exact step _ _ link
    | tail _ link ih => exact (step _ _ link).trans ih
  intro h cycle
  exact Nat.lt_irrefl _ (below h h cycle)

/-! ## The main statement -/

/-- Following base links from any class ends, and the base chain is what was visited: it repeats no
class, is empty for what is no class and starts with the class otherwise, goes from each class to
its base, and has exactly the classes that base links lead to. The depth of a base is its position
there. Without cycles depths add up, and two classes that inherit from each other are one. -/
theorem baseChain_exact (r : Registry) (hash : TypeHash) :
    (∀ chain, r.WalksTo hash chain ↔ chain = r.baseChain hash) ∧
      r.IsBaseChain hash (r.baseChain hash) ∧
      (∀ base n, r.inheritanceDepth? hash base = some n ↔ (r.baseChain hash)[n]? = some base) ∧
      (r.Acyclic →
        (∀ base root m n, r.inheritanceDepth? hash base = some m →
          r.inheritanceDepth? base root = some n →
          r.inheritanceDepth? hash root = some (m + n)) ∧
        ∀ other m n, r.inheritanceDepth? hash other = some m →
          r.inheritanceDepth? other hash = some n → hash = other) := by
  refine ⟨fun _ => walksTo_iff, isBaseChain_baseChain r hash,
    fun _ _ => inheritanceDepth?_eq_some_iff, fun acyclic => ⟨?_, ?_⟩⟩
  · intro base root m n first second
    exact acyclic.inheritanceDepth?_add first second
  · intro other m n up down
    exact acyclic.eq_of_reaches
      (reaches_of_mem_baseChain (mem_baseChain_of_inheritanceDepth? up))
      (reaches_of_mem_baseChain (mem_baseChain_of_inheritanceDepth? down))

/-- Classes with given bases. -/
def ofBases (bases : List (TypeHash × Option TypeHash)) : Registry where
  types := { entries := bases.map fun entry =>
    (entry.1, .classType
      { hash := entry.1, name := entry.1.text, qualifiedName := entry.1.text, base := entry.2 }) }

/-- A class above which two others inherit from each other, and a class whose base is missing. In
the second hierarchy four classes inherit one from the other, the most derived one entered first. -/
theorem baseChain_exact_knot :
    let knot := ofBases [(⟨1⟩, some ⟨2⟩), (⟨2⟩, some ⟨3⟩), (⟨3⟩, some ⟨2⟩), (⟨4⟩, some ⟨5⟩)]
    let line := ofBases [(⟨4⟩, some ⟨3⟩), (⟨3⟩, some ⟨2⟩), (⟨2⟩, some ⟨1⟩), (⟨1⟩, none)]
    knot.WalksTo ⟨1⟩ [⟨1⟩, ⟨2⟩, ⟨3⟩] ∧ knot.WalksTo ⟨4⟩ [⟨4⟩] ∧ knot.WalksTo ⟨5⟩ [] ∧
      line.Acyclic ∧ line.inheritanceDepth? ⟨4⟩ ⟨2⟩ = some 2 ∧
      line.inheritanceDepth? ⟨2⟩ ⟨1⟩ = some 1 ∧ line.inheritanceDepth? ⟨4⟩ ⟨1⟩ = some (2 + 1) := by
  intro knot line
  have acyclic : line.Acyclic := acyclic_of_rank (fun h => h.bits.toNat) (by decide)
  have first : line.inheritanceDepth? ⟨4⟩ ⟨2⟩ = some 2 := by decide
  have second : line.inheritanceDepth? ⟨2⟩ ⟨1⟩ = some 1 := by decide
  obtain ⟨walks, -⟩ := baseChain_exact knot ⟨1⟩
  obtain ⟨walks', -⟩ := baseChain_exact knot ⟨4⟩
  obtain ⟨walks'', -⟩ := baseChain_exact knot ⟨5⟩
  obtain ⟨-, -, -, additive⟩ := baseChain_exact line ⟨4⟩
  exact ⟨(walks _).mpr (by decide), (walks' _).mpr (by decide), (walks'' _).mpr (by decide),
    acyclic, first, second, (additive acyclic).1 _ _ _ _ first second⟩

end ScriptSemantics.Registry
