import ScriptSemantics.Lookup.Result
import ScriptSemantics.Proofs.Registry.BaseChains

/-!
# Layout of Data Members

An object has the data members of all classes of its base chain, those of the root first. `layout`
is that list of members with their owners, and the index of a member is its place there.

1. A look-up finds the first member of a name in the most derived class that has one
   (`member_eq_dataMember_iff`), and counts the members of the bases below it. Counting down from
   the number of all members comes to the same and never goes below zero (`countDown?_length`).
2. A class that declares nothing under a name is passed by each of the four searches for it
   (`member_append`). Without cycles the rest of the chain is that of a base, so that the view of an
   object as its base finds the same member.

The main statement is `member_layout_consistent`.
-/

namespace ScriptSemantics

/-! ## Names in a list -/

namespace TypedName

variable {names : List TypedName} {name : String} {index : Nat} {t : DataType}

/-- The first entry of a name: no entry in front of it is called so. -/
theorem find?_eq_some_iff :
    find? names name = some (index, t) ↔
      ∃ before after, names = before ++ ⟨name, t⟩ :: after ∧ before.length = index ∧
        ∀ m ∈ before, m.name ≠ name := by
  simp only [find?, Option.map_eq_some_iff, List.find?_eq_some_iff_append]
  constructor
  · rintro ⟨⟨m, i⟩, ⟨isNamed, before, after, split, earlier⟩, same⟩
    simp only [Prod.mk.injEq] at same
    obtain ⟨rfl, rfl⟩ := same
    -- Without the numbers this is a split of the names.
    have unnumbered := congrArg (List.map Prod.fst) split
    rw [List.zipIdx_map_fst, List.map_append, List.map_cons] at unnumbered
    have number : names.zipIdx[before.length]? = some (m, i) := by simp [split]
    rw [List.getElem?_zipIdx, Option.map_eq_some_iff] at number
    obtain ⟨_, -, numbered⟩ := number
    refine ⟨before.map Prod.fst, after.map Prod.fst, ?_, ?_, ?_⟩
    · rw [unnumbered, ← beq_iff_eq.mp isNamed]
    · rw [List.length_map]
      simpa using congrArg Prod.snd numbered
    · intro m' member
      obtain ⟨entry, inBefore, rfl⟩ := List.mem_map.mp member
      simpa using earlier entry inBefore
  · rintro ⟨before, after, rfl, rfl, earlier⟩
    refine ⟨(⟨name, t⟩, before.length), ⟨by simp, before.zipIdx, after.zipIdx (before.length + 1),
      by simp [List.zipIdx_append, List.zipIdx_cons], ?_⟩, rfl⟩
    intro entry member
    have named : entry.1 ∈ before := by
      rw [← List.zipIdx_map_fst 0 before]
      exact List.mem_map_of_mem member
    simpa using earlier entry.1 named

theorem find?_eq_none_iff : find? names name = none ↔ ∀ m ∈ names, m.name ≠ name := by
  conv_rhs => rw [← List.zipIdx_map_fst 0 names, List.forall_mem_map]
  simp only [find?, Option.map_eq_none_iff, List.find?_eq_none, beq_iff_eq, ne_eq]

end TypedName

/-! ## First results -/

namespace LookupResult

variable {α : Type} {search : α → LookupResult}

/-- A search for the first result passes places where nothing is known. -/
theorem firstKnown_append {before : List α} (unknown : ∀ a ∈ before, search a = .unknown)
    (places : List α) : firstKnown search (before ++ places) = firstKnown search places := by
  induction before with
  | nil => rfl
  | cons a before ih =>
    rw [List.forall_mem_cons] at unknown
    rw [List.cons_append, firstKnown, orElse, unknown.1, ih unknown.2]
    rfl

theorem orElse_ne {first result : LookupResult} {second : Unit → LookupResult}
    (notFirst : first ≠ result) (notSecond : second () ≠ result) :
    first.orElse second ≠ result := by
  rw [orElse]
  split
  · exact notSecond
  · exact notFirst

/-- A known result that is found at no place is not found first. -/
theorem firstKnown_ne {result : LookupResult} (known : result ≠ .unknown)
    (nowhere : ∀ a, search a ≠ result) (places : List α) :
    firstKnown search places ≠ result := by
  induction places with
  | nil => exact known.symm
  | cons a places ih => exact orElse_ne (nowhere a) ih

end LookupResult

namespace Registry

variable {r : Registry} {name : String} {hash owner : TypeHash} {index : Nat} {t : DataType}

/-! ## The layout -/

/-- The data members of some classes with their owners, those of the bases first. -/
def layoutOf (classes : List (TypeHash × ClassDecl)) : List (TypeHash × TypedName) :=
  classes.reverse.flatMap fun entry => entry.2.members.map fun m => (entry.1, m)

/-- The data members of an object with their owners, from the root base down to its class. -/
def layout (r : Registry) (hash : TypeHash) : List (TypeHash × TypedName) :=
  layoutOf (r.chainClasses hash)

theorem layoutOf_cons (entry : TypeHash × ClassDecl) (bases : List (TypeHash × ClassDecl)) :
    layoutOf (entry :: bases) = layoutOf bases ++ entry.2.members.map fun m => (entry.1, m) := by
  simp [layoutOf]

theorem layoutOf_append (derived bases : List (TypeHash × ClassDecl)) :
    layoutOf (derived ++ bases) = layoutOf bases ++ layoutOf derived := by
  simp [layoutOf]

theorem length_layoutOf (classes : List (TypeHash × ClassDecl)) :
    (layoutOf classes).length = (classes.flatMap fun entry => entry.2.members).length := by
  induction classes with
  | nil => rfl
  | cons entry bases ih =>
    rw [layoutOf_cons, List.length_append, List.length_map, ih, List.flatMap_cons,
      List.length_append, Nat.add_comm]

/-- The search for a data member with one count: it starts with the number of all members and goes
down by the members of each class on the way. There is no result if it would go below zero. -/
def countDown? (name : String) : (count : Nat) → List (TypeHash × ClassDecl) → Option LookupResult
  | _, [] => some .unknown
  | count, entry :: bases =>
    if count < entry.2.members.length then none
    else
      let below := count - entry.2.members.length
      match TypedName.find? entry.2.members name with
      | some found => some (.dataMember entry.1 (below + found.1) found.2)
      | none => countDown? name below bases

/-- Counting down finds what is found by counting the bases, and never goes below zero. -/
theorem countDown?_length (name : String) (classes : List (TypeHash × ClassDecl)) :
    countDown? name (layoutOf classes).length classes = some (dataMember name classes) := by
  induction classes with
  | nil => rfl
  | cons entry bases ih =>
    have below : (layoutOf (entry :: bases)).length - entry.2.members.length =
        (layoutOf bases).length := by
      simp [layoutOf_cons]
    have enough : ¬(layoutOf (entry :: bases)).length < entry.2.members.length := by
      simp [layoutOf_cons]
    rw [countDown?, if_neg enough, dataMember]
    simp only [below]
    cases TypedName.find? entry.2.members name with
    | none => exact ih
    | some found => simp only [length_layoutOf]

/-! ## Data members -/

/-- What the search for a data member comes to: no class has one of that name, or the first one of
the most derived class that has any is found behind the members of the bases. -/
theorem dataMember_cases (name : String) (classes : List (TypeHash × ClassDecl)) :
    (dataMember name classes = .unknown ∧
        ∀ entry ∈ classes, ∀ m ∈ entry.2.members, m.name ≠ name) ∨
      ∃ derived owner c bases before t after, classes = derived ++ (owner, c) :: bases ∧
        (∀ entry ∈ derived, ∀ m ∈ entry.2.members, m.name ≠ name) ∧
        c.members = before ++ ⟨name, t⟩ :: after ∧ (∀ m ∈ before, m.name ≠ name) ∧
        dataMember name classes =
          .dataMember owner ((layoutOf bases).length + before.length) t := by
  induction classes with
  | nil => exact .inl ⟨rfl, nofun⟩
  | cons entry bases ih =>
    obtain ⟨hash, c⟩ := entry
    cases found : TypedName.find? c.members name with
    | some place =>
      obtain ⟨index, t⟩ := place
      -- The class has such a member, behind all members of its bases.
      obtain ⟨before, after, split, rfl, earlier⟩ := TypedName.find?_eq_some_iff.mp found
      refine .inr ⟨[], hash, c, bases, before, t, after, rfl, nofun, split, earlier, ?_⟩
      simp only [dataMember, found, length_layoutOf]
    | none =>
      -- The class has no such member, and the search goes on with its bases.
      have passed := TypedName.find?_eq_none_iff.mp found
      have onward : dataMember name ((hash, c) :: bases) = dataMember name bases := by
        simp only [dataMember, found]
      rw [onward]
      rcases ih with ⟨unknown, absent⟩ |
        ⟨derived, owner, c', bases', before, t, after, rfl, hidden, rest⟩
      · exact .inl ⟨unknown, List.forall_mem_cons.mpr ⟨passed, absent⟩⟩
      · exact .inr ⟨(hash, c) :: derived, owner, c', bases', before, t, after, rfl,
          List.forall_mem_cons.mpr ⟨passed, hidden⟩, rest⟩

theorem mem_chainClasses {entry : TypeHash × ClassDecl} :
    entry ∈ r.chainClasses hash ↔
      entry.1 ∈ r.baseChain hash ∧ r.class? entry.1 = some entry.2 := by
  obtain ⟨h, c⟩ := entry
  simp only [chainClasses, List.mem_filterMap, Option.map_eq_some_iff, Prod.mk.injEq]
  constructor
  · rintro ⟨_, member, _, found, rfl, rfl⟩
    exact ⟨member, found⟩
  · rintro ⟨member, found⟩
    exact ⟨h, member, c, found, rfl, rfl⟩

/-- Every class of a chain is there with its declaration. -/
theorem map_fst_chainClasses (r : Registry) (hash : TypeHash) :
    (r.chainClasses hash).map Prod.fst = r.baseChain hash := by
  have registered := fun h => ((isBaseChain_baseChain r hash).mem_iff h).mp
  rw [chainClasses, List.map_filterMap]
  conv_rhs => rw [← @List.filterMap_some _ (r.baseChain hash)]
  apply List.filterMap_congr
  intro h member
  obtain ⟨c, found⟩ := Option.isSome_iff_exists.mp (registered h member).2
  simp [found]

/-- A class has a data member of this name. -/
def HasMember (r : Registry) (name : String) (hash : TypeHash) : Prop :=
  ∃ c, r.class? hash = some c ∧ ∃ m ∈ c.members, m.name = name

/-- What a name of a data member means in objects of a class, by the layout alone. -/
structure IsMember (r : Registry) (hash : TypeHash) (name : String) (owner : TypeHash)
    (index : Nat) (t : DataType) : Prop where
  /-- No class below the owner has a member of that name. -/
  mostDerived : ∃ derived bases, r.baseChain hash = derived ++ owner :: bases ∧
    ∀ h ∈ derived, ¬r.HasMember name h
  place : (r.layout hash)[index]? = some (owner, ⟨name, t⟩)
  /-- It is the first of that name in its class. -/
  first : ∀ m, (owner, m) ∈ (r.layout hash).take index → m.name ≠ name

theorem mem_layoutOf {classes : List (TypeHash × ClassDecl)} {h : TypeHash} {m : TypedName} :
    (h, m) ∈ layoutOf classes ↔ ∃ c, (h, c) ∈ classes ∧ m ∈ c.members := by
  simp only [layoutOf, List.mem_flatMap, List.mem_reverse, List.mem_map, Prod.mk.injEq]
  constructor
  · rintro ⟨⟨h', c⟩, entry, m', member, rfl, rfl⟩
    exact ⟨c, entry, member⟩
  · rintro ⟨c, entry, member⟩
    exact ⟨(h, c), entry, m, member, rfl, rfl⟩

theorem IsMember.hasMember (isMember : r.IsMember hash name owner index t) :
    r.HasMember name owner := by
  obtain ⟨c, entry, member⟩ := mem_layoutOf.mp (List.mem_of_getElem? isMember.place)
  exact ⟨c, (mem_chainClasses.mp entry).2, ⟨name, t⟩, member, rfl⟩

/-- A name means one member at most. -/
theorem IsMember.unique {owner' : TypeHash} {index' : Nat} {t' : DataType}
    (isMember : r.IsMember hash name owner index t)
    (isMember' : r.IsMember hash name owner' index' t') :
    owner = owner' ∧ index = index' ∧ t = t' := by
  obtain ⟨derived, bases, split, hidden⟩ := isMember.mostDerived
  obtain ⟨derived', bases', split', hidden'⟩ := isMember'.mostDerived
  -- Neither owner can be among the classes below the other.
  have notBelow : owner ∉ derived' := fun member => hidden' owner member isMember.hasMember
  have notBelow' : owner' ∉ derived := fun member => hidden owner' member isMember'.hasMember
  have sameOwner : owner = owner' := by
    rcases List.append_eq_append_iff.mp (split.symm.trans split') with
      ⟨between, rfl, rest⟩ | ⟨between, rfl, rest⟩
    · cases between with
      | nil => exact (List.cons.inj rest).1
      | cons first between =>
        rw [List.cons_append] at rest
        exact absurd (by simp [(List.cons.inj rest).1]) notBelow
    · cases between with
      | nil => exact (List.cons.inj rest).1.symm
      | cons first between =>
        rw [List.cons_append] at rest
        exact absurd (by simp [(List.cons.inj rest).1]) notBelow'
  subst sameOwner
  -- Of two places in one class the first is meant.
  have notBefore : ∀ {i j : Nat} {u v : DataType}, r.IsMember hash name owner i u →
      r.IsMember hash name owner j v → ¬i < j := by
    intro i j u v atI atJ less
    refine atJ.first ⟨name, u⟩ (List.mem_of_getElem? (i := i) ?_) rfl
    rw [List.getElem?_take_of_lt less, atI.place]
  have sameIndex : index = index' := by
    have := notBefore isMember isMember'
    have := notBefore isMember' isMember
    omega
  subst sameIndex
  have samePlace := isMember.place.symm.trans isMember'.place
  simp only [Option.some.injEq, Prod.mk.injEq, TypedName.mk.injEq] at samePlace
  exact ⟨rfl, rfl, samePlace.2.2⟩

/-- The member that is found has its place in the layout. -/
theorem isMember_of_split {derived bases : List (TypeHash × ClassDecl)} {c : ClassDecl}
    {before after : List TypedName} (split : r.chainClasses hash = derived ++ (owner, c) :: bases)
    (hidden : ∀ entry ∈ derived, ∀ m ∈ entry.2.members, m.name ≠ name)
    (members : c.members = before ++ ⟨name, t⟩ :: after) (earlier : ∀ m ∈ before, m.name ≠ name) :
    r.IsMember hash name owner ((layoutOf bases).length + before.length) t := by
  have chain : r.baseChain hash = derived.map Prod.fst ++ owner :: bases.map Prod.fst := by
    rw [← map_fst_chainClasses, split, List.map_append, List.map_cons]
  -- In front of the member: those of the bases, and those of its class before it.
  have front : r.layout hash =
      (layoutOf bases ++ before.map fun m => (owner, m)) ++
        (owner, ⟨name, t⟩) :: ((after.map fun m => (owner, m)) ++ layoutOf derived) := by
    simp [layout, split, layoutOf_append, layoutOf_cons, members]
  have length : (layoutOf bases ++ before.map fun m => (owner, m)).length =
      (layoutOf bases).length + before.length := by simp
  refine ⟨⟨_, _, chain, ?_⟩, ?_, ?_⟩
  · rintro h member ⟨c', found, m, isMember, isNamed⟩
    obtain ⟨entry, inDerived, rfl⟩ := List.mem_map.mp member
    have inChain : entry ∈ r.chainClasses hash := by
      rw [split]
      exact List.mem_append_left _ inDerived
    cases found.symm.trans (mem_chainClasses.mp inChain).2
    exact hidden entry inDerived m isMember isNamed
  · rw [front, ← length, List.getElem?_append_right (Nat.le_refl _), Nat.sub_self]
    rfl
  · intro m member
    rw [front, ← length, List.take_left] at member
    rcases List.mem_append.mp member with inBases | inClass
    · -- The owner would stand in the chain for a second time.
      obtain ⟨c', inBases, -⟩ := mem_layoutOf.mp inBases
      have nodup := (isBaseChain_baseChain r hash).nodup
      rw [chain] at nodup
      have twice := (List.nodup_cons.mp (List.nodup_append.mp nodup).2.1).1
      exact absurd (List.mem_map_of_mem inBases) twice
    · obtain ⟨m', inBefore, same⟩ := List.mem_map.mp inClass
      cases same
      exact earlier m inBefore

/-- Members that need no object are no data members. -/
theorem staticMember_ne_dataMember : r.staticMember hash name ≠ .dataMember owner index t := by
  have known : LookupResult.dataMember owner index t ≠ .unknown := nofun
  unfold staticMember
  apply LookupResult.orElse_ne
  · apply LookupResult.firstKnown_ne known
    rintro ⟨h, c⟩
    simp only [staticMemberOf]
    split <;> exact nofun
  apply LookupResult.orElse_ne
  · apply LookupResult.firstKnown_ne known
    rintro ⟨h, c⟩
    simp only [nestedTypeOf]
    split <;> exact nofun
  · apply LookupResult.firstKnown_ne known
    rintro ⟨h, c⟩
    simp only [methodsOf, LookupResult.ofFunctions]
    split <;> exact nofun

/-- **Layout**: a look-up finds a data member exactly if the name means that member. -/
theorem member_eq_dataMember_iff :
    r.member hash name = .dataMember owner index t ↔ r.IsMember hash name owner index t := by
  rw [member]
  rcases dataMember_cases name (r.chainClasses hash) with
    ⟨unknown, absent⟩ | ⟨derived, owner', c, bases, before, t', after, split, hidden, members,
      earlier, found⟩
  · rw [unknown]
    constructor
    · intro found
      exact absurd found staticMember_ne_dataMember
    · intro isMember
      obtain ⟨c, entry, member⟩ := mem_layoutOf.mp (List.mem_of_getElem? isMember.place)
      exact absurd rfl (absent _ entry _ member)
  · have isMember := isMember_of_split split hidden members earlier
    rw [found]
    constructor
    · intro same
      cases same
      exact isMember
    · intro isMember'
      obtain ⟨rfl, rfl, rfl⟩ := isMember.unique isMember'
      rfl

/-! ## Objects as objects of a base -/

/-- A class declares something under this name. -/
def Declares (r : Registry) (name : String) (hash : TypeHash) : Prop :=
  ∃ c, r.class? hash = some c ∧
    ((∃ m ∈ c.members, m.name = name) ∨ (∃ m ∈ c.statics, m.name = name) ∨
      (∃ h ∈ c.nested, (r.type? h).bind TypeDecl.name? = some name) ∨
      (∃ f ∈ r.methods hash, f.name = name) ∨
      ∃ h ∈ c.memberTemplates, ∃ template, r.functionTemplate? h = some template ∧
        template.name = name)

/-- Nothing is found in a class that declares nothing under the name. -/
theorem searches_of_not_declares {c : ClassDecl} (found : r.class? hash = some c)
    (silent : ¬r.Declares name hash) :
    TypedName.find? c.members name = none ∧ staticMemberOf name (hash, c) = .unknown ∧
      r.nestedTypeOf name (hash, c) = .unknown ∧ r.methodsOf name (hash, c) = .unknown := by
  simp only [Declares, found, Option.some.injEq, exists_eq_left', not_or, not_exists, not_and]
    at silent
  obtain ⟨members, statics, nested, methods, templates⟩ := silent
  have noStatic : TypedName.find? c.statics name = none := TypedName.find?_eq_none_iff.mpr statics
  have noNested :
      (c.nested.find? fun h => (r.type? h).bind TypeDecl.name? == some name) = none := by
    rw [List.find?_eq_none]
    intro h member
    simpa using nested h member
  have noMethods : ((r.methods hash).filter fun f => f.name == name) = [] := by
    rw [List.filter_eq_nil_iff]
    intro f member
    simpa using methods f member
  have noTemplates : (c.memberTemplates.filter fun h =>
      (r.functionTemplate? h).any fun e => e.name == name) = [] := by
    rw [List.filter_eq_nil_iff]
    intro h member
    simpa [Option.any_eq_true] using templates h member
  refine ⟨TypedName.find?_eq_none_iff.mpr members, ?_, ?_, ?_⟩
  · simp only [staticMemberOf, noStatic]
  · simp only [nestedTypeOf, noNested]
  · simp only [methodsOf, noMethods, noTemplates]
    rfl

/-- Classes that declare nothing under the name are passed by every search. -/
theorem member_append {base : TypeHash} {derived : List (TypeHash × ClassDecl)}
    (split : r.chainClasses hash = derived ++ r.chainClasses base)
    (silent : ∀ entry ∈ derived, ¬r.Declares name entry.1) :
    r.member hash name = r.member base name := by
  -- What each of the four searches says about the classes in front.
  have searches : ∀ entry ∈ derived, TypedName.find? entry.2.members name = none ∧
      staticMemberOf name entry = .unknown ∧ r.nestedTypeOf name entry = .unknown ∧
      r.methodsOf name entry = .unknown := by
    intro entry member
    have inChain : entry ∈ r.chainClasses hash := by
      rw [split]
      exact List.mem_append_left _ member
    exact searches_of_not_declares (mem_chainClasses.mp inChain).2 (silent entry member)
  have data : dataMember name (derived ++ r.chainClasses base) =
      dataMember name (r.chainClasses base) := by
    clear split silent
    induction derived with
    | nil => rfl
    | cons entry derived ih =>
      rw [List.forall_mem_cons] at searches
      rw [List.cons_append, dataMember, searches.1.1]
      exact ih searches.2
  rw [member, member, staticMember, staticMember, split, data,
    LookupResult.firstKnown_append fun entry member => (searches entry member).2.1,
    LookupResult.firstKnown_append fun entry member => (searches entry member).2.2.1,
    LookupResult.firstKnown_append fun entry member => (searches entry member).2.2.2]

/-! ## The main statement -/

/-- Member layout is consistent along inheritance. Counting down from the number of all members
never goes below zero. A look-up finds a data member exactly if it is the first of its name in the
most derived class that has any, with its place among all members from the root down as its index.
So the index is below their number, and belongs to one name only. If there are no cycles and the
classes below an ancestor declare nothing under the name, the look-up in the ancestor has the same
result. -/
theorem member_layout_consistent (r : Registry) (hash : TypeHash) (name : String) :
    countDown? name (r.layout hash).length (r.chainClasses hash) =
        some (dataMember name (r.chainClasses hash)) ∧
      (∀ owner index t, r.member hash name = .dataMember owner index t ↔
        r.IsMember hash name owner index t) ∧
      (∀ owner index t, r.member hash name = .dataMember owner index t →
        index < (r.layout hash).length ∧
        ∀ name' owner' t', r.member hash name' = .dataMember owner' index t' → name' = name) ∧
      (r.Acyclic → ∀ derived base bases, r.baseChain hash = derived ++ base :: bases →
        (∀ h ∈ derived, ¬r.Declares name h) → r.member hash name = r.member base name) := by
  refine ⟨countDown?_length name _, fun _ _ _ => member_eq_dataMember_iff, ?_, ?_⟩
  · intro owner index t found
    have here := (member_eq_dataMember_iff.mp found).place
    refine ⟨(List.getElem?_eq_some_iff.mp here).1, fun name' owner' t' found' => ?_⟩
    -- Both names are read off one place of the layout.
    have here' := (member_eq_dataMember_iff.mp found').place
    rw [here] at here'
    simp only [Option.some.injEq, Prod.mk.injEq, TypedName.mk.injEq] at here'
    exact here'.2.1.symm
  · intro acyclic derived base bases split silent
    -- From the ancestor on the classes are those of its own chain.
    have rest := acyclic.baseChain_of_split split
    have classes : r.chainClasses hash =
        (derived.filterMap fun h => (r.class? h).map fun c => (h, c)) ++ r.chainClasses base := by
      rw [chainClasses, chainClasses, split, rest, List.filterMap_append]
    apply member_append classes
    intro entry member
    obtain ⟨h, inDerived, found⟩ := List.mem_filterMap.mp member
    obtain ⟨c, -, rfl⟩ := Option.map_eq_some_iff.mp found
    exact silent h inDerived

/-- A class, one that adds a member of the same name, and one below it that adds a static member. -/
def crew : Registry :=
  let kin (hash : TypeHash) (base : Option TypeHash) (members statics : List TypedName) :
      TypeHash × TypeDecl :=
    (hash, .classType
      { hash, name := hash.text, qualifiedName := hash.text, base, members, statics })
  let number (name : String) : TypedName := ⟨name, .ofKind .int⟩
  { types := { entries := [kin ⟨13⟩ (some ⟨12⟩) [] [number "count"],
    kin ⟨12⟩ (some ⟨11⟩) [number "score", number "id"] [],
    kin ⟨11⟩ none [number "id", number "team"] []] } }

/-- The most derived class has the members of both bases, and the name they share means that of the
nearer one. -/
theorem member_layout_consistent_crew :
    crew.Acyclic ∧ crew.member ⟨13⟩ "id" = .dataMember ⟨12⟩ 3 (.ofKind .int) ∧
      crew.IsMember ⟨13⟩ "id" ⟨12⟩ 3 (.ofKind .int) ∧
      crew.baseChain ⟨13⟩ = [⟨13⟩] ++ ⟨12⟩ :: [⟨11⟩] ∧ ¬crew.Declares "id" ⟨13⟩ ∧
      crew.member ⟨13⟩ "id" = crew.member ⟨12⟩ "id" := by
  have acyclic : crew.Acyclic := acyclic_of_rank (fun h => h.bits.toNat) (by decide)
  have found : crew.member ⟨13⟩ "id" = .dataMember ⟨12⟩ 3 (.ofKind .int) := by decide
  have split : crew.baseChain ⟨13⟩ = [⟨13⟩] ++ ⟨12⟩ :: [⟨11⟩] := by decide
  have silent : ¬crew.Declares "id" ⟨13⟩ := by
    rintro ⟨c, isClass, declared⟩
    cases isClass
    revert declared
    decide
  obtain ⟨-, layout, -, views⟩ := member_layout_consistent crew ⟨13⟩ "id"
  exact ⟨acyclic, found, (layout _ _ _).mp found, split, silent,
    views acyclic _ _ _ split (List.forall_mem_singleton.mpr silent)⟩

end Registry

end ScriptSemantics
