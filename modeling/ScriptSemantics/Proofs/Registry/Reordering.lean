import Mathlib.Data.List.Basic
import ScriptSemantics.Proofs.Registry.Changes

/-!
# Declaration Order inside Classes

Two registries are reorderings of each other if they hold the same declarations, except that the
constructors and the casts of a class may be listed in another order.

Nothing that is read off identities, kinds and bases sees the difference. The registered
constructors and casts of a class come out permuted. Copy constructibility does see it: the first
constructor that takes a value of its own class is taken for the copy constructor, so a class that
declares a deleted and a usable one of them is copied or not as they are ordered.
`Registry.copies_eq_of_decided` and `Registry.exists_reordered` say that this is the only way.
-/

namespace ScriptSemantics

/-! ## Reorderings -/

/-- The same class, up to the order of its constructors and of its casts. -/
structure ClassDecl.Reordered (c c' : ClassDecl) : Prop where
  constructors : c.constructors.Perm c'.constructors
  casts : c.casts.Perm c'.casts
  /-- All else is the same. -/
  rest : { c with constructors := c'.constructors, casts := c'.casts } = c'

/-- The same type, up to the order of members in a class. -/
inductive TypeDecl.Reordered : TypeDecl → TypeDecl → Prop where
  | same (decl : TypeDecl) : Reordered decl decl
  | classType {c c' : ClassDecl} (h : c.Reordered c') : Reordered (.classType c) (.classType c')

/-- The same registry, up to the order of members in its classes. -/
structure Registry.Reordered (r r' : Registry) : Prop where
  keys : r.types.keys = r'.types.keys
  types : ∀ hash, Option.Rel TypeDecl.Reordered (r.type? hash) (r'.type? hash)
  /-- All else is the same. -/
  rest : { r with types := r'.types } = r'

theorem ClassDecl.Reordered.refl (c : ClassDecl) : c.Reordered c :=
  ⟨.refl _, .refl _, rfl⟩

namespace Registry

namespace Reordered

variable {r r' : Registry}

/-- What is read off a type is the same if it is the same for reordered classes. -/
theorem bind_type?_eq (h : r.Reordered r') {β : Type} {view : TypeDecl → Option β}
    (blind : ∀ {c c' : ClassDecl}, c.Reordered c' → view (.classType c) = view (.classType c'))
    (hash : TypeHash) : (r.type? hash).bind view = (r'.type? hash).bind view := by
  have related := h.types hash
  generalize r.type? hash = found, r'.type? hash = found' at related ⊢
  cases related with
  | none => rfl
  | some related =>
    cases related with
    | same => rfl
    | classType related => exact blind related

theorem isRegistered_eq (h : r.Reordered r') (t : DataType) :
    r.isRegistered t = r'.isRegistered t := by
  have related := h.types t.typeHash
  unfold isRegistered
  generalize r.type? t.typeHash = found, r'.type? t.typeHash = found' at related ⊢
  cases related <;> rfl

theorem fundamental?_eq (h : r.Reordered r') (t : DataType) :
    r.fundamental? t = r'.fundamental? t := by
  unfold fundamental?
  rw [h.bind_type?_eq (fun _ => rfl)]

theorem isEnum_eq (h : r.Reordered r') (t : DataType) : r.isEnum t = r'.isEnum t := by
  unfold isEnum enum?
  rw [h.bind_type?_eq (fun _ => rfl)]

theorem function?_eq (h : r.Reordered r') (hash : TypeHash) :
    r.function? hash = r'.function? hash := by
  rw [← h.rest]
  rfl

/-- The classes under one identity are reorderings of each other. -/
theorem class?_cases (h : r.Reordered r') (hash : TypeHash) :
    (r.class? hash = none ∧ r'.class? hash = none) ∨
      ∃ c c' : ClassDecl, c.Reordered c' ∧ r.class? hash = some c ∧ r'.class? hash = some c' := by
  have related := h.types hash
  unfold class?
  generalize r.type? hash = found, r'.type? hash = found' at related ⊢
  cases related with
  | none => exact .inl ⟨rfl, rfl⟩
  | @some decl decl' related =>
    cases related with
    | classType related => exact .inr ⟨_, _, related, rfl, rfl⟩
    | same =>
      cases decl with
      | classType c => exact .inr ⟨c, c, .refl c, rfl, rfl⟩
      | _ => exact .inl ⟨rfl, rfl⟩

theorem isClass_eq (h : r.Reordered r') (t : DataType) : r.isClass t = r'.isClass t := by
  unfold isClass
  rcases h.class?_cases t.typeHash with ⟨found, found'⟩ | ⟨c, c', -, found, found'⟩ <;>
    simp [found, found']

/-! ## Base chains -/

theorem chainFrom_eq (h : r.Reordered r') (limit : Nat) (visited : List TypeHash)
    (hash : TypeHash) : r.chainFrom limit visited hash = r'.chainFrom limit visited hash := by
  induction limit generalizing visited hash with
  | zero => rfl
  | succ limit ih =>
    unfold chainFrom
    rcases h.class?_cases hash with ⟨found, found'⟩ | ⟨c, c', related, found, found'⟩
    · rw [found, found']
    · -- The base is one of the things that stay, and from there the chains agree.
      rw [found, found', ← related.rest]
      simp only [ih]

theorem baseChain_eq (h : r.Reordered r') (hash : TypeHash) :
    r.baseChain hash = r'.baseChain hash := by
  have size : r.types.size = r'.types.size := by
    simpa [Table.keys, Table.size] using congrArg List.length h.keys
  unfold baseChain
  rw [size, h.chainFrom_eq]

theorem inheritanceDepth?_eq (h : r.Reordered r') (derived base : TypeHash) :
    r.inheritanceDepth? derived base = r'.inheritanceDepth? derived base := by
  unfold inheritanceDepth?
  rw [h.baseChain_eq]

/-! ## Members -/

/-- Member lists that are permuted in every reordered class are permuted in the registry. -/
theorem registered_perm (h : r.Reordered r') {members : ClassDecl → List TypeHash}
    (perm : ∀ {c c' : ClassDecl}, c.Reordered c' → (members c).Perm (members c'))
    (hash : TypeHash) :
    (r.registered ((r.class? hash).elim [] members)).Perm
      (r'.registered ((r'.class? hash).elim [] members)) := by
  have sameFunctions : r.function? = r'.function? := funext h.function?_eq
  unfold registered
  rw [sameFunctions]
  apply List.Perm.filterMap
  rcases h.class?_cases hash with ⟨found, found'⟩ | ⟨c, c', related, found, found'⟩
  · rw [found, found']
  · rw [found, found']
    exact perm related

theorem constructors_perm (h : r.Reordered r') (hash : TypeHash) :
    (r.constructors hash).Perm (r'.constructors hash) :=
  h.registered_perm ClassDecl.Reordered.constructors hash

theorem casts_perm (h : r.Reordered r') (hash : TypeHash) :
    (r.casts hash).Perm (r'.casts hash) :=
  h.registered_perm ClassDecl.Reordered.casts hash

end Reordered

/-! ## Copies -/

/-- The copy constructors of a class that is not flagged against copies are all deleted, or all
usable. -/
def CopiesDecided (r : Registry) : Prop :=
  ∀ hash c, hash ≠ .null → r.class? hash = some c → c.flags.isNonCopyable = false →
    ∀ f ∈ r.constructors hash, ∀ g ∈ r.constructors hash,
      takesOnly hash f → takesOnly hash g → f.isDeleted = g.isDeleted

variable {r r' : Registry} {hash : TypeHash} {c : ClassDecl}

/-- The same constructors are declared on both sides. -/
theorem CopiesDecided.reordered (decided : r.CopiesDecided) (h : r.Reordered r') :
    r'.CopiesDecided := by
  intro hash c notNull found' unflagged f hf g hg
  rw [← (h.constructors_perm hash).mem_iff] at hf hg
  rcases h.class?_cases hash with ⟨-, none⟩ | ⟨d, d', related, found, some⟩
  · rw [none] at found'
    cases found'
  · cases some.symm.trans found'
    rw [← related.rest] at unflagged
    exact decided hash d notNull found unflagged f hf g hg

/-- Where copy constructors agree, the first one speaks for all. -/
theorem isCopyConstructible_iff_of_decided (decided : r.CopiesDecided) (notNull : hash ≠ .null)
    (found : r.class? hash = some c) :
    r.isCopyConstructible hash ↔ c.flags.isNonCopyable = false ∧
      ∀ f ∈ r.constructors hash, takesOnly hash f → f.isDeleted = false := by
  simp only [isCopyConstructible, found, Bool.and_eq_true, Bool.not_eq_true']
  refine and_congr_right fun unflagged => ?_
  unfold copyConstructor?
  cases first : (r.constructors hash).find? (takesOnly hash) with
  | none =>
    rw [List.find?_eq_none] at first
    simp only [Option.all_none, true_iff]
    intro f declared copies
    exact absurd copies (first f declared)
  | some g =>
    -- The first copy constructor decides, and by assumption the others are like it.
    have member := List.mem_of_find?_eq_some first
    have copies := List.find?_some first
    simp only [Option.all_some, Bool.not_eq_true']
    constructor
    · intro usable f declared copying
      rw [← usable]
      exact decided hash c notNull found unflagged f declared g member copying copies
    · intro usable
      exact usable g member copies

/-- Where copy constructors agree, their order does not matter. -/
theorem copies_eq_of_decided (h : r.Reordered r') (decided : r.CopiesDecided)
    (notNull : hash ≠ .null) : r.isCopyConstructible hash = r'.isCopyConstructible hash := by
  rcases h.class?_cases hash with ⟨found, found'⟩ | ⟨c, c', related, found, found'⟩
  · simp only [isCopyConstructible, found, found']
  · rw [Bool.eq_iff_iff, isCopyConstructible_iff_of_decided decided notNull found,
      isCopyConstructible_iff_of_decided (decided.reordered h) notNull found', ← related.rest]
    simp only [(h.constructors_perm hash).mem_iff]

end Registry

/-- List a constructor first, if it is one of the class. -/
def ClassDecl.constructorFirst (ctor : TypeHash) (c : ClassDecl) : ClassDecl :=
  if ctor ∈ c.constructors then { c with constructors := ctor :: c.constructors.erase ctor } else c

theorem ClassDecl.reordered_constructorFirst (ctor : TypeHash) (c : ClassDecl) :
    c.Reordered (c.constructorFirst ctor) := by
  unfold constructorFirst
  split
  · rename_i declared
    exact ⟨List.perm_cons_erase declared, .refl _, rfl⟩
  · exact .refl c

namespace Registry

variable {r : Registry} {hash : TypeHash} {c : ClassDecl}

theorem reordered_modifyClass {change : ClassDecl → ClassDecl}
    (reorders : ∀ c : ClassDecl, c.Reordered (change c)) :
    r.Reordered (r.modifyClass hash change) := by
  refine ⟨?_, ?_, rfl⟩
  · -- A changed entry keeps its key.
    simp only [Table.keys, modifyClass, Table.modify, List.map_map]
    apply List.map_congr_left
    intro entry _
    simp only [Function.comp]
    split <;> rfl
  · intro other
    simp only [type?, modifyClass, Table.get?_modify]
    cases r.types.get? other with
    | none =>
      split <;> exact .none
    | some decl =>
      split
      · cases decl with
        | classType c => exact .some (.classType (reorders c))
        | _ => exact .some (.same _)
      · exact .some (.same decl)

/-- Any declared copy constructor decides over copies once it is listed first. -/
theorem exists_reordered (found : r.class? hash = some c)
    (unflagged : c.flags.isNonCopyable = false) {f : FunctionDecl}
    (declared : f ∈ r.constructors hash) (copies : takesOnly hash f) :
    ∃ r', r.Reordered r' ∧ r'.isCopyConstructible hash = !f.isDeleted := by
  rw [constructors, found] at declared
  obtain ⟨ctor, listed, stored⟩ := List.mem_filterMap.1 declared
  let reordered := r.modifyClass hash (.constructorFirst ctor)
  have isReordered : r.Reordered reordered :=
    reordered_modifyClass (ClassDecl.reordered_constructorFirst ctor)
  have changed : reordered.class? hash = some (c.constructorFirst ctor) := by
    rw [class?_modifyClass, if_pos rfl, found]
    rfl
  have listedFirst : c.constructorFirst ctor
      = { c with constructors := ctor :: c.constructors.erase ctor } := if_pos listed
  -- The search for a copy constructor ends at the head of the list.
  have first : reordered.copyConstructor? hash = some f := by
    rw [copyConstructor?, constructors, registered, changed, listedFirst]
    simp only [Option.elim_some, List.filterMap_cons, ← isReordered.function?_eq ctor, stored,
      List.find?_cons, copies]
  refine ⟨reordered, isReordered, ?_⟩
  simp only [isCopyConstructible, changed, first, listedFirst, unflagged, Option.all_some,
    Bool.not_false, Bool.true_and]

end Registry

end ScriptSemantics
