import Mathlib.Data.List.Flatten
import ScriptSemantics.Proofs.Conversion.Validity
import ScriptSemantics.Proofs.Registry.Changes

/-!
# Const References and Copies

A const reference takes every value that its type itself takes. Where the value is copied, the
reference binds it directly, or binds a temporary with the converted value. So a reference is
refused less often than a copy:

1. a standard step into the type gives one into the reference (`isConvertible_of_withoutRef`), and a
   class that is not copied loses the step into the type only;
2. a constructor is tried for both in the same way, and a cast serves the reference wherever it
   serves the type (`functions_withoutRef_sublist`).

An initialization of a const reference that finds no conversion tries the type next. That second
attempt fails in the same way. The main statement is `const_reference_permissive`.
-/

namespace ScriptSemantics

/-! ## The type of a const reference -/

namespace DataType

variable {t : DataType}

@[simp] theorem isMutableRef_withoutRef (t : DataType) : t.withoutRef.isMutableRef = false := rfl

theorem isReference_of_isConstRef (h : t.isConstRef) : t.isReference := by
  simp only [isConstRef, Bool.and_eq_true] at h
  exact h.2

theorem isMutableRef_of_isConstRef (h : t.isConstRef) : t.isMutableRef = false := by
  simp only [isConstRef, Bool.and_eq_true] at h
  simp [isMutableRef, h.1]

end DataType

/-! ## Standard steps -/

namespace StandardConversion

variable {r : Registry} {source dest : DataType}

/-- What a temporary is bound to does not decide whether there is one. -/
@[simp] theorem isConvertible_into (c : StandardConversion) (dest : DataType) :
    (c.into dest).isConvertible = c.isConvertible := by
  unfold into
  split
  · cases c <;> rfl
  · rfl

theorem isConvertible_sameType (reference : dest.isReference) :
    (sameType r source dest).isConvertible := by
  rw [sameType, if_pos reference]
  rfl

/-- A class that is found along the base chain is bound, copied or not. -/
theorem isConvertible_toBase (reference : dest.isReference)
    (value : (toBase r source dest.withoutRef).isConvertible) :
    (toBase r source dest).isConvertible := by
  -- Classes and their bases are the same on both sides.
  have steps : inheritanceSteps? r source dest.withoutRef = inheritanceSteps? r source dest := rfl
  simp only [toBase, steps] at value
  simp only [toBase]
  cases found : inheritanceSteps? r source dest with
  | none =>
    rw [found] at value
    cases value
  | some depth =>
    simp only [if_pos reference]
    rfl

/-- A value that has a standard step into a type has one into a const reference to it. -/
theorem isConvertible_of_withoutRef (isConstRef : dest.isConstRef)
    (value : (compute r source dest.withoutRef).isConvertible) :
    (compute r source dest).isConvertible := by
  have reference := DataType.isReference_of_isConstRef isConstRef
  have notMutable := DataType.isMutableRef_of_isConstRef isConstRef
  -- Everything that the search asks about the destination, but for the copy of a class, has the
  -- same answer with and without the reference.
  have null : dest.withoutRef.isNull = dest.isNull := rfl
  have registered : r.isRegistered dest.withoutRef = r.isRegistered dest := rfl
  have same : source.sameBase dest.withoutRef = source.sameBase dest := rfl
  have array : dest.withoutRef.isArray = dest.isArray := rfl
  have kind : r.fundamental? dest.withoutRef = r.fundamental? dest := rfl
  unfold compute at value ⊢
  simp only [null, registered, same, array, kind, DataType.isMutableRef_withoutRef, notMutable]
    at value ⊢
  split at value
  · cases value
  rename_i known
  rw [if_neg known]
  simp only [Bool.false_eq_true, if_false] at value ⊢
  split at value
  · rename_i sameBase
    rw [if_pos sameBase]
    exact isConvertible_sameType reference
  rename_i otherBase
  rw [if_neg otherBase]
  split at value
  · cases value
  rename_i noArray
  rw [if_neg noArray]
  split at value
  · -- The table of fundamental types has one entry for both.
    rw [isConvertible_into] at value ⊢
    exact value
  · split at value
    · rename_i isEnum
      split at value
      · rename_i isInt
        rw [if_pos isEnum, if_pos isInt, isConvertible_into]
        rfl
      · cases value
    · rename_i noEnum
      rw [if_neg noEnum]
      exact isConvertible_toBase reference value

end StandardConversion

/-! ## Functions -/

/-- A search that finds less, but nothing else, gives a part of the list. -/
theorem filterMap_sublist_filterMap {α β : Type} {f g : α → Option β}
    (less : ∀ a b, f a = some b → g a = some b) (as : List α) :
    (as.filterMap f).Sublist (as.filterMap g) := by
  induction as with
  | nil => exact .refl _
  | cons a as ih =>
    cases found : f a with
    | some b =>
      rw [List.filterMap_cons_some found, List.filterMap_cons_some (less a b found)]
      exact ih.cons_cons b
    | none =>
      rw [List.filterMap_cons_none found]
      cases also : g a with
      | none => rwa [List.filterMap_cons_none also]
      | some b =>
        rw [List.filterMap_cons_some also]
        exact ih.cons b

namespace Conversion

variable {r : Registry} {source dest : DataType} {policy : ConversionPolicy}

/-- A constructor is tried without a look at the step behind it. -/
theorem function?_throughConstructor?_withoutRef (ctor : FunctionDecl) :
    (throughConstructor? r source dest.withoutRef ctor).map function? =
      (throughConstructor? r source dest ctor).map function? := by
  have produced : dest.withoutRef.typeHash = dest.typeHash := rfl
  unfold throughConstructor?
  split
  · rfl
  · simp only [produced]
    split <;> rfl

theorem functions_constructorCandidates_withoutRef (isConstRef : dest.isConstRef) :
    (constructorCandidates r source dest.withoutRef policy).map function? =
      (constructorCandidates r source dest policy).map function? := by
  have isClass : r.isClass dest.withoutRef = r.isClass dest := rfl
  have notMutable := DataType.isMutableRef_of_isConstRef isConstRef
  have produced : dest.withoutRef.typeHash = dest.typeHash := rfl
  simp only [constructorCandidates, isClass, notMutable, produced,
    DataType.isMutableRef_withoutRef]
  split
  · simp only [List.map_filterMap, function?_throughConstructor?_withoutRef]
  · rfl

/-- A cast that leads to a type leads to a const reference to it. -/
theorem function?_throughCast?_of_withoutRef (isConstRef : dest.isConstRef) {owner : TypeHash}
    {cast : FunctionDecl} {function : Option TypeHash}
    (value : (throughCast? r source dest.withoutRef owner cast).map function? = some function) :
    (throughCast? r source dest owner cast).map function? = some function := by
  have notMutable := DataType.isMutableRef_of_isConstRef isConstRef
  simp only [throughCast?, DataType.isMutableRef_withoutRef, notMutable, Bool.false_and,
    Bool.false_eq_true, if_false] at value ⊢
  split at value
  · rename_i possible
    rw [Bool.and_eq_true] at possible
    have after := StandardConversion.isConvertible_of_withoutRef isConstRef possible.2
    rw [if_pos (by simp [possible.1, after])]
    exact value
  · cases value

/-- Every function that is tried for a type is tried for a const reference to it. -/
theorem functions_withoutRef_sublist (isConstRef : dest.isConstRef) :
    ((candidates r source dest.withoutRef policy).map function?).Sublist
      ((candidates r source dest policy).map function?) := by
  rw [candidates, candidates, List.map_append, List.map_append,
    functions_constructorCandidates_withoutRef isConstRef]
  apply List.Sublist.append_left
  unfold castCandidates
  split
  · simp only [List.map_flatMap, List.map_filterMap]
    apply List.Sublist.flatMap_right
    intro owner _
    apply filterMap_sublist_filterMap
    intro cast function value
    exact function?_throughCast?_of_withoutRef isConstRef value
  · exact List.Sublist.refl _

/-! ## Failure to convert -/

theorem findUserDefined_eq_none_iff :
    findUserDefined r source dest policy = .ok none ↔ candidates r source dest policy = [] := by
  unfold findUserDefined
  split
  · rename_i nothing
    simp [nothing]
  · rename_i something
    have found : candidates r source dest policy ≠ [] := something
    split <;> simp [found]

/-- A conversion fails for want of a standard step and of candidates. If there are candidates, it
may be ambiguous. -/
theorem tryCompute_eq_notConvertible_iff {s d : DataType} :
    tryCompute r source dest policy = .error (.notConvertible s d) ↔
      (s = source ∧ d = dest) ∧ ¬(StandardConversion.compute r source dest).isConvertible ∧
        candidates r source dest policy = [] := by
  rw [← findUserDefined_eq_none_iff]
  unfold tryCompute
  simp only
  split
  · rename_i possible
    simp [possible]
  · rename_i impossible
    -- Every other failure of the search for functions is an ambiguity.
    have ambiguous : ∀ e, findUserDefined r source dest policy = .error e →
        e ≠ .notConvertible s d := by
      intro e failed
      unfold findUserDefined at failed
      split at failed
      · cases failed
      · split at failed
        · cases failed
        · cases failed
          exact nofun
    rcases found : findUserDefined r source dest policy with e | _ | c
    · simp [ambiguous e found]
    · simp [impossible, eq_comm]
    · simp

/-! ## The main statement -/

/-- Binding a value to a const reference is at least as permissive as copying it. If there is no
conversion to the reference, there is none to its type either, and no ambiguity. So an
initialization of the reference rests on the first conversion alone: its second attempt never
succeeds, and it is valid exactly if the first conversion is found and valid. -/
theorem const_reference_permissive (isConstRef : dest.isConstRef) :
    (∀ s d, tryCompute r source dest policy = .error (.notConvertible s d) →
        tryCompute r source dest.withoutRef policy =
          .error (.notConvertible source dest.withoutRef)) ∧
      (∀ style manner c, Initialization.ofType r dest source style = .converted manner c →
        tryCompute r source dest style.policy = .ok c) ∧
      ∀ style, (Initialization.ofType r dest source style).isValid ↔
        ∃ c, tryCompute r source dest style.policy = .ok c ∧ c.isValid := by
  have refused : ∀ policy s d, tryCompute r source dest policy = .error (.notConvertible s d) →
      tryCompute r source dest.withoutRef policy =
        .error (.notConvertible source dest.withoutRef) := by
    intro policy s d failed
    rw [tryCompute_eq_notConvertible_iff] at failed ⊢
    obtain ⟨-, noStep, noCandidates⟩ := failed
    refine ⟨⟨rfl, rfl⟩, ?_, ?_⟩
    · intro value
      exact noStep (StandardConversion.isConvertible_of_withoutRef isConstRef value)
    · have fewer := @functions_withoutRef_sublist r source dest policy isConstRef
      rw [noCandidates, List.map_nil, List.sublist_nil, List.map_eq_nil_iff] at fewer
      exact fewer
  -- What an initialization is, by the outcome of the first conversion.
  have outcome : ∀ style, (∃ e, tryCompute r source dest style.policy = .error e ∧
        ∃ failure, Initialization.ofType r dest source style = .failed failure) ∨
      ∃ manner c, tryCompute r source dest style.policy = .ok c ∧
        Initialization.ofType r dest source style = .converted manner c := by
    intro style
    unfold Initialization.ofType
    rcases first : tryCompute r source dest style.policy with e | c
    · cases e with
      | ambiguous => exact .inl ⟨_, rfl, _, rfl⟩
      | notConvertible s d =>
        simp only [if_pos isConstRef, refused style.policy s d first]
        exact .inl ⟨_, rfl, _, rfl⟩
    · exact .inr ⟨_, c, rfl, rfl⟩
  refine ⟨refused policy, fun style manner c found => ?_, fun style => ?_⟩
  · rcases outcome style with ⟨e, -, failure, failed⟩ | ⟨manner', c', first, converted⟩
    · rw [failed] at found
      cases found
    · rw [converted] at found
      cases found
      exact first
  · rcases outcome style with ⟨e, first, failure, failed⟩ | ⟨manner, c, first, converted⟩
    · simp [failed, first, Initialization.isValid]
    · simp [converted, first, Initialization.isValid]

/-- A class that is not copied, one that derives from it, and one that casts to a reference to the
derived class. -/
def vault : Registry :=
  let coffer (hash : TypeHash) (name : String) (base : Option TypeHash) (casts : List TypeHash) :
      TypeHash × TypeDecl :=
    (hash, .classType
      { hash, name, qualifiedName := name, base, casts, flags := { isNonCopyable := true } })
  let types : Table TypeHash TypeDecl := { entries := [
    coffer ⟨1⟩ "Coffer" none [], coffer ⟨2⟩ "Safe" (some ⟨1⟩) [], coffer ⟨3⟩ "Key" none [⟨31⟩]] }
  ({ types } : Registry).addFunction
    { hash := ⟨31⟩, name := "$cast", kind := .cast, owner := some ⟨3⟩,
      returnType := .reference ⟨2⟩ }

/-- A key leads to a reference to a coffer but to no copy of one. In the other direction there is
nothing, for the reference and for the copy. -/
theorem const_reference_permissive_vault :
    (DataType.constRef ⟨1⟩).isConstRef ∧
      (∃ e, tryCompute vault (.simple ⟨3⟩) (.constant ⟨1⟩) .implicitOnly = .error e) ∧
      (Initialization.ofType vault (.constRef ⟨1⟩) (.simple ⟨3⟩) .copy).isValid ∧
      (DataType.constRef ⟨3⟩).isConstRef ∧
      tryCompute vault (.simple ⟨1⟩) (.constant ⟨3⟩) .implicitOnly =
        .error (.notConvertible (.simple ⟨1⟩) (.constant ⟨3⟩)) ∧
      ¬(Initialization.ofType vault (.constRef ⟨3⟩) (.simple ⟨1⟩) .copy).isValid := by
  have found : tryCompute vault (.simple ⟨3⟩) (.constRef ⟨1⟩) .implicitOnly =
      .ok (userDefined (.step { binding := .reference }) ⟨31⟩
        (.step { addsConst := true, depth := 1, binding := .reference }) (.simple ⟨3⟩)
        (.constRef ⟨1⟩)) := by
    decide +kernel
  have uncopied : tryCompute vault (.simple ⟨3⟩) (.constant ⟨1⟩) .implicitOnly =
      .error (.notConvertible (.simple ⟨3⟩) (.constant ⟨1⟩)) := by decide +kernel
  have failed : tryCompute vault (.simple ⟨1⟩) (.constRef ⟨3⟩) .implicitOnly =
      .error (.notConvertible (.simple ⟨1⟩) (.constRef ⟨3⟩)) := by decide +kernel
  have toCoffer : (DataType.constRef ⟨1⟩).isConstRef := rfl
  have toKey : (DataType.constRef ⟨3⟩).isConstRef := rfl
  obtain ⟨-, -, bound⟩ :=
    @const_reference_permissive vault (.simple ⟨3⟩) _ .implicitOnly toCoffer
  obtain ⟨refused, -, unbound⟩ :=
    @const_reference_permissive vault (.simple ⟨1⟩) _ .implicitOnly toKey
  refine ⟨toCoffer, ⟨_, uncopied⟩, (bound .copy).mpr ⟨_, found, rfl⟩, toKey, refused _ _ failed, ?_⟩
  intro valid
  obtain ⟨c, first, -⟩ := (unbound .copy).mp valid
  cases failed.symm.trans first

end Conversion

end ScriptSemantics
