import ScriptSemantics.Proofs.Conversion.Comparison

/-!
# Valid Conversions

A search for a conversion returns valid conversions only, and an initialization that did not fail
is valid. The step after a constructor is not looked at by the search: it leads from a value of the
destination class to the destination, and that is always possible, unless the class sits under the
identity that stands for no type at all.

Reference bindings are described on the way. The destination binds the source itself only for one
type or along a base chain, and never drops const.
-/

namespace ScriptSemantics

/-! ## Reference bindings -/

namespace StandardConversion

/-- What is known of two types if a reference to the one binds a value of the other. -/
structure Direct (r : Registry) (source dest : DataType) (c : StandardConversion) : Prop where
  reference : dest.isReference
  const : source.isConst → dest.isConst
  /-- Either the types are the same, or the source inherits from the destination. -/
  related : source.sameBase dest ∨
    ∃ depth, r.inheritanceDepth? source.typeHash dest.typeHash = some depth
  exactMatch : c.rank = .exactMatch

variable {r : Registry} {source dest : DataType}

theorem inheritanceDepth?_of_steps {depth : Nat}
    (steps : inheritanceSteps? r source dest = some depth) :
    r.inheritanceDepth? source.typeHash dest.typeHash = some depth := by
  unfold inheritanceSteps? at steps
  split at steps
  · exact steps
  · cases steps

theorem direct_of_bindMutable (mutable : dest.isMutableRef) :
    (bindMutable r source dest).isReferenceBinding →
      Direct r source dest (bindMutable r source dest) := by
  have reference : dest.isReference := by
    simp only [DataType.isMutableRef, Bool.and_eq_true] at mutable
    exact mutable.1
  unfold bindMutable
  split
  · exact nofun
  rename_i nonConst
  have const : source.isConst → dest.isConst := fun isConst => absurd isConst nonConst
  split
  · rename_i same
    exact fun _ => ⟨reference, const, .inl same, rfl⟩
  · split
    · rename_i depth steps
      exact fun _ => ⟨reference, const, .inr ⟨depth, inheritanceDepth?_of_steps steps⟩, rfl⟩
    · exact nofun

/-- A reference that is not mutable keeps const, whatever it binds. -/
theorem const_of_not_isMutableRef (reference : dest.isReference) (notMutable : ¬dest.isMutableRef) :
    dest.isConst := by
  simpa [DataType.isMutableRef, reference] using notMutable

theorem direct_of_sameType (notMutable : ¬dest.isMutableRef) (same : source.sameBase dest) :
    (sameType r source dest).isReferenceBinding →
      Direct r source dest (sameType r source dest) := by
  unfold sameType
  split
  · rename_i reference
    exact fun _ =>
      ⟨reference, fun _ => const_of_not_isMutableRef reference notMutable, .inl same, rfl⟩
  · split <;> exact nofun

theorem direct_of_toBase (notMutable : ¬dest.isMutableRef) :
    (toBase r source dest).isReferenceBinding → Direct r source dest (toBase r source dest) := by
  unfold toBase
  split
  · exact nofun
  · rename_i depth steps
    split
    · rename_i reference
      exact fun _ => ⟨reference, fun _ => const_of_not_isMutableRef reference notMutable,
        .inr ⟨depth, inheritanceDepth?_of_steps steps⟩, rfl⟩
    · split <;> exact nofun

/-- A converted value is a copy. -/
theorem not_isReferenceBinding_into {c : StandardConversion} (copied : ¬c.isReferenceBinding) :
    ¬(c.into dest).isReferenceBinding := by
  unfold into
  split
  · cases c <;> simp [withBinding, map, isReferenceBinding, step?]
  · exact copied

theorem not_isReferenceBinding_betweenFundamentals (a b : FundamentalKind) :
    ¬(betweenFundamentals a b).isReferenceBinding := by
  cases a <;> cases b <;> decide

/-- The three ways to a direct binding. Numeric steps make copies, so that a base chain is all that
is left behind the first two. -/
theorem cases_of_isReferenceBinding (binding : (compute r source dest).isReferenceBinding) :
    (dest.isMutableRef ∧ compute r source dest = bindMutable r source dest) ∨
      (¬dest.isMutableRef ∧ source.sameBase dest ∧
        compute r source dest = sameType r source dest) ∨
      (¬dest.isMutableRef ∧ ¬source.sameBase dest ∧
        compute r source dest = toBase r source dest) := by
  revert binding
  unfold compute
  split
  · exact nofun
  split
  · rename_i mutable
    exact fun _ => .inl ⟨mutable, rfl⟩
  rename_i notMutable
  split
  · rename_i same
    exact fun _ => .inr (.inl ⟨notMutable, same, rfl⟩)
  rename_i different
  split
  · exact nofun
  split
  · intro h
    exact absurd h (not_isReferenceBinding_into (not_isReferenceBinding_betweenFundamentals _ _))
  · split
    · split
      · intro h
        exact absurd h (not_isReferenceBinding_into (by decide))
      · exact nofun
    · exact fun _ => .inr (.inr ⟨notMutable, different, rfl⟩)

/-- **Direct binding**: only references of one type or along a base chain bind the source itself,
and a const source only const ones. -/
theorem direct_of_isReferenceBinding (binding : (compute r source dest).isReferenceBinding) :
    Direct r source dest (compute r source dest) := by
  rcases cases_of_isReferenceBinding binding with
    ⟨mutable, way⟩ | ⟨notMutable, same, way⟩ | ⟨notMutable, -, way⟩
  · rw [way] at binding ⊢
    exact direct_of_bindMutable mutable binding
  · rw [way] at binding ⊢
    exact direct_of_sameType notMutable same binding
  · rw [way] at binding ⊢
    exact direct_of_toBase notMutable binding

/-! ## Validity -/

theorem rank_isViable (c : StandardConversion) : c.rank.isViable = c.isConvertible := by
  cases c with
  | notConvertible => rfl
  | step s =>
    obtain ⟨numeric, addsConst, depth, binding⟩ := s
    cases numeric <;> rfl

/-- A const reference to a class binds a value of that class. -/
theorem isConvertible_of_class (noNull : r.type? .null = none) (isClass : r.isClass dest)
    (notMutable : ¬dest.isMutableRef) (reference : dest.isReference) :
    (compute r (.simple dest.typeHash) dest).isConvertible := by
  simp only [Registry.isClass, Bool.and_eq_true, Bool.not_eq_true', Registry.class?] at isClass
  obtain ⟨noArray, found⟩ := isClass
  have known : (r.type? dest.typeHash).isSome := by
    cases entry : r.type? dest.typeHash with
    | none =>
      rw [entry] at found
      cases found
    | some decl => rfl
  -- A class that is found does not sit under the identity of no type.
  have notNull : (dest.typeHash == TypeHash.null) = false := by
    rw [beq_eq_false_iff_ne]
    intro isNull
    rw [isNull, noNull] at known
    cases known
  have sameBase : (DataType.simple dest.typeHash).sameBase dest := by
    simp [DataType.sameBase, DataType.base, DataType.simple, DataType.isArray] at noArray ⊢
    exact noArray
  rw [compute, if_neg, if_neg notMutable, if_pos sameBase, sameType, if_pos reference]
  · rfl
  · simp [DataType.isNull, DataType.simple, Registry.isRegistered, notNull, known]

end StandardConversion

namespace Conversion

variable {r : Registry} {source dest : DataType} {policy : ConversionPolicy} {c : Conversion}

theorem isValid_standard (step : StandardConversion) :
    (standard step source dest).isValid = step.isConvertible := step.rank_isViable

theorem isValid_userDefined {before after : StandardConversion} {function : TypeHash}
    (hbefore : before.isConvertible) (hafter : after.isConvertible) :
    (userDefined before function after source dest).isValid := by
  simp [isValid, rank, userDefined, hbefore, hafter, ConversionRank.isViable]

theorem isValid_of_throughConstructor? (noNull : r.type? .null = none) (isClass : r.isClass dest)
    (notMutable : ¬dest.isMutableRef) {ctor : FunctionDecl}
    (h : throughConstructor? r source dest ctor = some c) : c.isValid := by
  unfold throughConstructor? at h
  split at h
  · cases h
  · simp only at h
    split at h
    · rename_i usable
      simp only [Bool.and_eq_true] at usable
      cases h
      refine isValid_userDefined usable.2 ?_
      split
      · rename_i reference
        exact StandardConversion.isConvertible_of_class noNull isClass notMutable reference
      · rfl
    · cases h

theorem isValid_of_throughCast? {owner : TypeHash} {cast : FunctionDecl}
    (h : throughCast? r source dest owner cast = some c) : c.isValid := by
  simp only [throughCast?] at h
  split at h
  · cases h
  · split at h
    · rename_i possible
      simp only [Bool.and_eq_true] at possible
      cases h
      exact isValid_userDefined possible.1 possible.2
    · cases h

theorem isValid_of_mem_candidates (noNull : r.type? .null = none)
    (h : c ∈ candidates r source dest policy) : c.isValid := by
  rcases List.mem_append.mp h with ofConstructor | ofCast
  · unfold constructorCandidates at ofConstructor
    split at ofConstructor
    · rename_i usable
      simp only [Bool.and_eq_true, Bool.not_eq_true'] at usable
      obtain ⟨ctor, -, found⟩ := List.mem_filterMap.mp ofConstructor
      exact isValid_of_throughConstructor? noNull usable.1 (by simp [usable.2]) found
    · cases ofConstructor
  · -- Casts are admitted only if both of their steps are possible.
    unfold castCandidates at ofCast
    split at ofCast
    · obtain ⟨owner, -, inOwner⟩ := List.mem_flatMap.mp ofCast
      obtain ⟨cast, -, found⟩ := List.mem_filterMap.mp inOwner
      exact isValid_of_throughCast? found
    · cases ofCast

theorem mem_of_bestFrom? {front back : List Conversion} (h : bestFrom? front back = some c) :
    c ∈ back := by
  induction back generalizing front with
  | nil => cases h
  | cons d back ih =>
    unfold bestFrom? at h
    split at h
    · cases h
      exact List.mem_cons_self
    · exact List.mem_cons_of_mem _ (ih h)

theorem mem_of_findUserDefined (h : findUserDefined r source dest policy = .ok (some c)) :
    c ∈ candidates r source dest policy := by
  unfold findUserDefined at h
  split at h
  · cases h
  · split at h
    · rename_i found
      cases h
      exact mem_of_bestFrom? found
    · cases h

/-- A conversion that was found is valid. -/
theorem isValid_of_tryCompute (noNull : r.type? .null = none)
    (h : tryCompute r source dest policy = .ok c) : c.isValid := by
  simp only [tryCompute] at h
  split at h
  · rename_i possible
    cases h
    rwa [isValid_standard]
  · split at h
    · rename_i found
      cases h
      exact isValid_of_mem_candidates noNull (mem_of_findUserDefined found)
    · cases h
    · cases h

end Conversion

/-! ## Initializations -/

namespace Initialization

/-- An initialization from a value fails, or it carries a conversion that was found. -/
theorem ofType_cases (r : Registry) (dest source : DataType) (style : InitStyle) :
    (∃ failure, ofType r dest source style = failed failure) ∨
      ∃ manner c target, ofType r dest source style = converted manner c ∧
        Conversion.tryCompute r source target style.policy = .ok c := by
  unfold ofType
  split
  · rename_i found
    exact .inr ⟨_, _, _, rfl, found⟩
  · exact .inl ⟨_, rfl⟩
  · split
    · split
      · rename_i found
        exact .inr ⟨_, _, _, rfl, found⟩
      · exact .inl ⟨_, rfl⟩
    · exact .inl ⟨_, rfl⟩

/-- Either failed, or built from parts. -/
def FailedOrStructured (init : Initialization) : Prop :=
  init.failure? = none → init.isStructured

theorem failedOrStructured_construct (form : ConstructionForm) (dest : DataType)
    (constructor : Option TypeHash) (children : Except InitFailure (List Initialization)) :
    FailedOrStructured (construct form dest constructor children) := by
  cases children with
  | ok => exact fun _ => rfl
  | error => exact nofun

theorem failedOrStructured_default (r : Registry) (dest : DataType) :
    FailedOrStructured (default r dest) := by
  unfold default
  simp only
  split
  · exact nofun
  split
  · exact fun _ => rfl
  split
  · -- A fundamental value, unless it is `void`.
    split
    · exact nofun
    · exact fun _ => rfl
  split
  · exact nofun
  split
  · exact fun _ => rfl
  · -- A class with constructors needs a usable one.
    split
    · exact fun _ => rfl
    · exact nofun

theorem failedOrStructured_ofPositional (dest : DataType) (elements : List Element)
    (narrowing : Option InitFailure) (ctors : List FunctionDecl) :
    FailedOrStructured (ofPositional dest elements narrowing ctors) := by
  induction ctors generalizing narrowing with
  | nil => exact nofun
  | cons ctor ctors ih =>
    unfold ofPositional
    split
    · exact ih _
    · split
      · exact fun _ => rfl
      · exact ih _

theorem failedOrStructured_ofClassList (r : Registry) (dest : DataType) (c : ClassDecl)
    (elements : List Element) : FailedOrStructured (ofClassList r dest c elements) := by
  unfold ofClassList
  split
  · unfold ofMembers
    split
    · exact nofun
    · exact failedOrStructured_construct _ _ _ _
  · simp only
    split
    · exact failedOrStructured_construct _ _ _ _
    · exact failedOrStructured_ofPositional _ _ _ _

theorem failedOrStructured_ofList (r : Registry) (dest : DataType) (elements : List Element) :
    FailedOrStructured (ofList r dest elements) := by
  unfold ofList
  split
  · exact nofun
  split
  · exact failedOrStructured_construct _ _ _ _
  split
  · exact failedOrStructured_default _ _
  split
  · exact nofun
  split
  · exact nofun
  · exact failedOrStructured_ofClassList _ _ _ _

end Initialization

end ScriptSemantics
