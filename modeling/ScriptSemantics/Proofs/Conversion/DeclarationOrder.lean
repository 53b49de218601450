import Mathlib.Data.List.Perm.Basic
import ScriptSemantics.Proofs.Conversion.Selection
import ScriptSemantics.Proofs.Conversion.Validity
import ScriptSemantics.Proofs.Registry.Reordering

/-!
# Declaration Order in Conversions

Members of a class may be declared in any order, and almost nothing in a conversion notices:

1. a standard conversion asks for kinds, bases and whether the destination is copied;
2. the candidates for a user-defined conversion are permuted, and the best of them does not depend
   on its place in the list;
3. an ambiguous conversion names its candidates in another order.

What is left is the question whether a class is copied. `Conversion.verdicts_agree_iff` says that
verdicts agree exactly if that has the same answer, and that it has the same answer in every order
exactly if no class declares both a deleted and a usable copy constructor.
-/

namespace ScriptSemantics

/-! ## Agreement of verdicts -/

/-- Two errors agree: no conversion, or the same candidates, each as often as on the other side. -/
inductive ConversionError.Agree : ConversionError → ConversionError → Prop where
  | notConvertible (source dest : DataType) :
      Agree (.notConvertible source dest) (.notConvertible source dest)
  | ambiguous (source dest : DataType) {candidates candidates' : List TypeHash}
      (perm : candidates.Perm candidates') :
      Agree (.ambiguous source dest candidates) (.ambiguous source dest candidates')

/-- Two verdicts agree: the same result, or errors that agree. -/
inductive ConversionError.VerdictsAgree {α : Type} :
    Except ConversionError α → Except ConversionError α → Prop where
  | ok (result : α) : VerdictsAgree (.ok result) (.ok result)
  | error {e e' : ConversionError} (h : e.Agree e') : VerdictsAgree (.error e) (.error e')

open ConversionError

theorem ConversionError.VerdictsAgree.eq_ok_iff {α : Type} {a b : Except ConversionError α}
    (h : VerdictsAgree a b) (result : α) : a = .ok result ↔ b = .ok result := by
  cases h with
  | ok => exact .rfl
  | error => exact ⟨nofun, nofun⟩

/-! ## Standard conversions -/

namespace StandardConversion

variable {r r' : Registry} {source dest : DataType}

theorem inheritanceSteps?_reordered (h : r.Reordered r') :
    inheritanceSteps? r source dest = inheritanceSteps? r' source dest := by
  simp only [inheritanceSteps?, h.isClass_eq, h.inheritanceDepth?_eq]

theorem bindMutable_reordered (h : r.Reordered r') :
    bindMutable r source dest = bindMutable r' source dest := by
  simp only [bindMutable, inheritanceSteps?_reordered h]

theorem sameType_reordered (h : r.Reordered r')
    (copied : r.isCopyConstructible dest.typeHash = r'.isCopyConstructible dest.typeHash) :
    sameType r source dest = sameType r' source dest := by
  simp only [sameType, h.isClass_eq, copied]

theorem toBase_reordered (h : r.Reordered r')
    (copied : r.isCopyConstructible dest.typeHash = r'.isCopyConstructible dest.typeHash) :
    toBase r source dest = toBase r' source dest := by
  simp only [toBase, inheritanceSteps?_reordered h, copied]

/-- Standard conversions see declaration order in the copies of the destination only. -/
theorem compute_reordered (h : r.Reordered r')
    (copies : ∀ hash, hash ≠ .null → r.isCopyConstructible hash = r'.isCopyConstructible hash) :
    compute r source dest = compute r' source dest := by
  simp only [compute, h.isRegistered_eq, h.fundamental?_eq, h.isEnum_eq]
  split
  · rfl
  rename_i known
  -- The identity of no type never gets as far as a copy.
  have notNull : dest.typeHash ≠ .null := by
    intro isNull
    simp [DataType.isNull, isNull] at known
  have copied := copies dest.typeHash notNull
  rw [bindMutable_reordered h, sameType_reordered h copied, toBase_reordered h copied]

/-- A value of a class converts to its class exactly if the class is copied. -/
theorem compute_self {hash : TypeHash} {c : ClassDecl} (notNull : hash ≠ .null)
    (found : r.class? hash = some c) :
    compute r (.simple hash) (.simple hash) =
      if r.isCopyConstructible hash then exact else notConvertible := by
  have known : (r.type? hash).isSome := by
    rw [Registry.class?, Option.bind_eq_some_iff] at found
    obtain ⟨decl, entry, -⟩ := found
    rw [entry]
    rfl
  simp only [compute, sameType, DataType.isNull, DataType.simple, DataType.isMutableRef,
    DataType.isReference, DataType.isArray, DataType.sameBase, DataType.base, Registry.isRegistered,
    Registry.isClass, known, found]
  cases r.isCopyConstructible hash <;> simp [notNull]

end StandardConversion

/-! ## User-defined conversions -/

namespace Conversion

variable {r r' : Registry} {source dest : DataType} {policy : ConversionPolicy}

theorem throughConstructor?_congr
    (steps : StandardConversion.compute r = StandardConversion.compute r') :
    throughConstructor? r source dest = throughConstructor? r' source dest := by
  funext ctor
  simp only [throughConstructor?, steps]

theorem throughCast?_congr (steps : StandardConversion.compute r = StandardConversion.compute r')
    (owner : TypeHash) :
    throughCast? r source dest owner = throughCast? r' source dest owner := by
  funext cast
  simp only [throughCast?, steps]

theorem constructorCandidates_perm (h : r.Reordered r')
    (steps : StandardConversion.compute r = StandardConversion.compute r') :
    (constructorCandidates r source dest policy).Perm
      (constructorCandidates r' source dest policy) := by
  simp only [constructorCandidates, h.isClass_eq, throughConstructor?_congr steps]
  split
  · exact ((h.constructors_perm _).filter _).filterMap _
  · exact .refl _

theorem castCandidates_perm (h : r.Reordered r')
    (steps : StandardConversion.compute r = StandardConversion.compute r') :
    (castCandidates r source dest policy).Perm (castCandidates r' source dest policy) := by
  simp only [castCandidates, h.isClass_eq, h.baseChain_eq, throughCast?_congr steps]
  split
  · -- Owners come in the order of the base chain; only the casts of each are permuted.
    apply List.Perm.flatMap_left
    intro owner _
    exact ((h.casts_perm owner).filter _).filterMap _
  · exact .refl _

theorem candidates_perm (h : r.Reordered r')
    (steps : StandardConversion.compute r = StandardConversion.compute r') :
    (candidates r source dest policy).Perm (candidates r' source dest policy) :=
  (constructorCandidates_perm h steps).append (castCandidates_perm h steps)

theorem findUserDefined_agree
    (perm : (candidates r source dest policy).Perm (candidates r' source dest policy)) :
    VerdictsAgree (findUserDefined r source dest policy)
      (findUserDefined r' source dest policy) := by
  unfold findUserDefined
  generalize candidates r source dest policy = found,
    candidates r' source dest policy = found' at perm ⊢
  cases found with
  | nil =>
    rw [← perm.nil_eq]
    exact .ok none
  | cons c rest =>
    cases found' with
    | nil => exact absurd perm.eq_nil (by simp)
    | cons c' rest' =>
      -- Both sides have candidates, and if one of them is the best it is so on both sides.
      simp only [bestFrom?_perm perm]
      split
      · exact .ok _
      · exact .error (.ambiguous source dest (perm.filterMap function?))

/-- Registries with the same standard conversions and permuted members come to the same verdicts. -/
theorem tryCompute_agree (h : r.Reordered r')
    (steps : StandardConversion.compute r = StandardConversion.compute r') :
    VerdictsAgree (tryCompute r source dest policy) (tryCompute r' source dest policy) := by
  have agree : VerdictsAgree (findUserDefined r source dest policy)
      (findUserDefined r' source dest policy) := findUserDefined_agree (candidates_perm h steps)
  simp only [tryCompute, steps]
  split
  · exact .ok _
  · generalize findUserDefined r source dest policy = found,
      findUserDefined r' source dest policy = found' at agree ⊢
    cases agree with
    | ok result =>
      cases result with
      | none => exact .error (.notConvertible source dest)
      | some c => exact .ok c
    | error same => exact .error same

theorem isUserDefined_of_mem_candidates {c : Conversion}
    (h : c ∈ candidates r source dest policy) : c.isUserDefined := by
  rcases List.mem_append.1 h with ofConstructor | ofCast
  · unfold constructorCandidates at ofConstructor
    split at ofConstructor
    · obtain ⟨ctor, -, found⟩ := List.mem_filterMap.1 ofConstructor
      unfold throughConstructor? at found
      split at found
      · cases found
      · obtain ⟨-, usable⟩ := Option.ite_none_right_eq_some.1 found
        cases usable
        rfl
    · cases ofConstructor
  · unfold castCandidates at ofCast
    split at ofCast
    · obtain ⟨owner, -, inOwner⟩ := List.mem_flatMap.1 ofCast
      obtain ⟨cast, -, found⟩ := List.mem_filterMap.1 inOwner
      unfold throughCast? at found
      obtain ⟨-, usable⟩ := Option.ite_none_left_eq_some.1 found
      obtain ⟨-, usable⟩ := Option.ite_none_right_eq_some.1 usable
      cases usable
      rfl
    · cases ofCast

/-- A conversion that was found and goes through no function is a standard one. -/
theorem isConvertible_of_not_isUserDefined {c : Conversion}
    (h : tryCompute r source dest policy = .ok c) (direct : c.isUserDefined = false) :
    (StandardConversion.compute r source dest).isConvertible := by
  by_contra impossible
  simp only [tryCompute, if_neg impossible] at h
  split at h
  · rename_i best
    cases h
    rw [isUserDefined_of_mem_candidates (mem_of_findUserDefined best)] at direct
    cases direct
  · cases h
  · cases h

/-- A value of a class is copied into its class exactly if the class allows it. -/
theorem tryCompute_self_eq_iff {hash : TypeHash} {c : ClassDecl} (notNull : hash ≠ .null)
    (found : r.class? hash = some c) (policy : ConversionPolicy) :
    tryCompute r (.simple hash) (.simple hash) policy
        = .ok (standard .exact (.simple hash) (.simple hash)) ↔
      r.isCopyConstructible hash := by
  have step := StandardConversion.compute_self notNull found
  constructor
  · -- The copy goes through no function, so it is the standard conversion.
    intro copied
    have possible := isConvertible_of_not_isUserDefined copied rfl
    rw [step] at possible
    by_contra refused
    rw [if_neg refused] at possible
    cases possible
  · intro copied
    rw [if_pos copied] at step
    rw [tryCompute, step]
    rfl

/-- Verdicts that agree reveal the same copies. -/
theorem copies_eq_of_agree (h : r.Reordered r')
    (agree : ∀ source dest policy,
      VerdictsAgree (tryCompute r source dest policy) (tryCompute r' source dest policy))
    {hash : TypeHash} (notNull : hash ≠ .null) :
    r.isCopyConstructible hash = r'.isCopyConstructible hash := by
  rcases h.class?_cases hash with ⟨found, found'⟩ | ⟨c, c', -, found, found'⟩
  · simp only [Registry.isCopyConstructible, found, found']
  · rw [Bool.eq_iff_iff, ← tryCompute_self_eq_iff notNull found .implicitOnly,
      ← tryCompute_self_eq_iff notNull found' .implicitOnly]
    exact (agree _ _ _).eq_ok_iff _

/-- **Declaration order**: reordering the members of classes leaves all verdicts as they are exactly
if it leaves all copies as they are, and every reordering does so exactly if no copyable class
declares both a deleted and a usable copy constructor. -/
theorem verdicts_agree_iff (r : Registry) :
    (∀ r', r.Reordered r' →
      ((∀ source dest policy,
          VerdictsAgree (tryCompute r source dest policy) (tryCompute r' source dest policy)) ↔
        ∀ hash, hash ≠ .null → r.isCopyConstructible hash = r'.isCopyConstructible hash)) ∧
    ((∀ r', r.Reordered r' → ∀ source dest policy,
        VerdictsAgree (tryCompute r source dest policy) (tryCompute r' source dest policy)) ↔
      r.CopiesDecided) := by
  have agree_of_copies : ∀ r', r.Reordered r' →
      (∀ hash, hash ≠ .null → r.isCopyConstructible hash = r'.isCopyConstructible hash) →
      ∀ source dest policy,
        VerdictsAgree (tryCompute r source dest policy) (tryCompute r' source dest policy) := by
    intro r' h copies source dest policy
    apply tryCompute_agree h
    funext source dest
    exact StandardConversion.compute_reordered h copies
  refine ⟨?_, ?_, ?_⟩
  · intro r' h
    exact ⟨fun agree _ notNull => copies_eq_of_agree h agree notNull, agree_of_copies r' h⟩
  · -- Each copy constructor can be put first, and then it alone decides.
    intro agree hash c notNull found unflagged f declaredF g declaredG copiesF copiesG
    obtain ⟨r₁, h₁, decides₁⟩ := Registry.exists_reordered found unflagged declaredF copiesF
    obtain ⟨r₂, h₂, decides₂⟩ := Registry.exists_reordered found unflagged declaredG copiesG
    have first := copies_eq_of_agree h₁ (agree r₁ h₁) notNull
    have second := copies_eq_of_agree h₂ (agree r₂ h₂) notNull
    rw [decides₁] at first
    rw [decides₂, first] at second
    exact Bool.not_inj second
  · intro decided r' h
    exact agree_of_copies r' h fun _ notNull => Registry.copies_eq_of_decided h decided notNull

/-! ### A class with its constructors in any order -/

/-- A class with constructors listed in the given order. -/
def cell (listed : List TypeHash) : ClassDecl where
  hash := ⟨1⟩
  name := "Cell"
  qualifiedName := "Cell"
  constructors := listed

/-- Four constructors are registered for the class: `⟨11⟩` takes a mutable reference to the class
and is deleted, `⟨12⟩` takes a const reference, `⟨13⟩` an `int`, and `⟨14⟩` an `int` and another one
by default. -/
def cellWith (listed : List TypeHash) : Registry :=
  let types : Table TypeHash TypeDecl := { entries := [
    (⟨1⟩, .classType (cell listed)),
    (FundamentalKind.int.hash, .fundamental .int)] }
  let ctor (hash : TypeHash) (params : List Param) (traits : FunctionTraits) :
      TypeHash × FunctionDecl :=
    (hash, { hash, name := "Cell", kind := .constructor, owner := some ⟨1⟩, params, traits })
  let functions : Table TypeHash FunctionDecl := { entries := [
    ctor ⟨11⟩ [{ dataType := .reference ⟨1⟩ }] { isDeleted := true },
    ctor ⟨12⟩ [{ dataType := .constRef ⟨1⟩ }] {},
    ctor ⟨13⟩ [{ dataType := .ofKind .int }] {},
    ctor ⟨14⟩ [{ dataType := .ofKind .int }, { dataType := .ofKind .int, hasDefault := true }]
      {}] }
  { types, functions }

/-- Only the class depends on the order. -/
theorem type?_cellWith (hash : TypeHash) :
    (∃ decl, decl.class? = none ∧ ∀ listed, (cellWith listed).type? hash = some decl) ∨
      (hash = ⟨1⟩ ∧ ∀ listed, (cellWith listed).type? hash = some (.classType (cell listed))) ∨
      ∀ listed, (cellWith listed).type? hash = none := by
  simp only [Registry.type?, cellWith, Table.get?, List.lookup_cons, List.lookup_nil]
  cases isCell : hash == ⟨1⟩ with
  | true => exact .inr (.inl ⟨beq_iff_eq.1 isCell, fun _ => rfl⟩)
  | false =>
    cases hash == FundamentalKind.int.hash with
    | true => exact .inl ⟨.fundamental .int, rfl, fun _ => rfl⟩
    | false => exact .inr (.inr fun _ => rfl)

theorem cellWith_reordered {listed listed' : List TypeHash} (perm : listed.Perm listed') :
    (cellWith listed).Reordered (cellWith listed') := by
  refine ⟨rfl, ?_, rfl⟩
  intro hash
  rcases type?_cellWith hash with ⟨decl, -, other⟩ | ⟨-, isCell⟩ | missing
  · rw [other, other]
    exact .some (.same decl)
  · rw [isCell, isCell]
    exact .some (.classType ⟨perm, .refl _, rfl⟩)
  · rw [missing, missing]
    exact .none

theorem cellWith_copiesDecided : (cellWith [⟨12⟩, ⟨13⟩, ⟨14⟩]).CopiesDecided := by
  intro hash c _ found _
  rcases type?_cellWith hash with ⟨decl, noClass, other⟩ | ⟨rfl, -⟩ | missing
  · simp [Registry.class?, other, noClass] at found
  · decide
  · simp [Registry.class?, missing] at found

/-- One usable copy constructor does not mind its place. From an `int` two constructors are equally
good in either order, and are named in that order. -/
theorem verdicts_agree_iff_cell :
    (cellWith [⟨12⟩, ⟨13⟩, ⟨14⟩]).CopiesDecided ∧
      (∀ source dest policy, VerdictsAgree
        (tryCompute (cellWith [⟨12⟩, ⟨13⟩, ⟨14⟩]) source dest policy)
        (tryCompute (cellWith [⟨14⟩, ⟨13⟩, ⟨12⟩]) source dest policy)) ∧
      tryCompute (cellWith [⟨12⟩, ⟨13⟩, ⟨14⟩]) (.ofKind .int) (.simple ⟨1⟩) .implicitOnly
        = .error (.ambiguous (.ofKind .int) (.simple ⟨1⟩) [⟨13⟩, ⟨14⟩]) ∧
      tryCompute (cellWith [⟨14⟩, ⟨13⟩, ⟨12⟩]) (.ofKind .int) (.simple ⟨1⟩) .implicitOnly
        = .error (.ambiguous (.ofKind .int) (.simple ⟨1⟩) [⟨14⟩, ⟨13⟩]) := by
  refine ⟨cellWith_copiesDecided, ?_, ?_, ?_⟩
  · have reversed : [⟨12⟩, ⟨13⟩, ⟨14⟩].Perm ([⟨14⟩, ⟨13⟩, ⟨12⟩] : List TypeHash) := by decide
    exact (verdicts_agree_iff _).2.2 cellWith_copiesDecided _ (cellWith_reordered reversed)
  · decide +kernel
  · decide +kernel

/-- A class with a deleted and a usable copy constructor is copied only if the usable one is
declared first. -/
theorem verdicts_follow_declaration_order :
    (cellWith [⟨11⟩, ⟨12⟩]).Reordered (cellWith [⟨12⟩, ⟨11⟩]) ∧
      tryCompute (cellWith [⟨11⟩, ⟨12⟩]) (.simple ⟨1⟩) (.simple ⟨1⟩) .implicitOnly
        = .error (.notConvertible (.simple ⟨1⟩) (.simple ⟨1⟩)) ∧
      tryCompute (cellWith [⟨12⟩, ⟨11⟩]) (.simple ⟨1⟩) (.simple ⟨1⟩) .implicitOnly
        = .ok (standard .exact (.simple ⟨1⟩) (.simple ⟨1⟩)) := by
  refine ⟨cellWith_reordered ?_, ?_, ?_⟩
  · exact .swap _ _ _
  · decide +kernel
  · decide +kernel

end Conversion

end ScriptSemantics
