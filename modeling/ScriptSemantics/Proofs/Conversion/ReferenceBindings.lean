import ScriptSemantics.Proofs.Conversion.Validity
import ScriptSemantics.Proofs.Registry.BaseChains

/-!
# Composition of Reference Bindings

A reference to a reference binds what the first one binds. The argument has two parts:

1. `Binds` says when a reference binds a value directly, and with how many inheritance steps,
   without the order in which the cases are tried. It describes the bindings that are found, and
   all of them (`compute_eq_step_iff`).
2. In a hierarchy without cycles the steps add up (`climb?_trans`). The const of a destination is
   added on the first of two bindings or on the second, and never on both.

The main statement is `reference_bindings_compose`.
-/

namespace ScriptSemantics

theorem DataType.typeHash_eq_of_base {t u : DataType} (same : t.base = u.base) :
    t.typeHash = u.typeHash := by
  simp only [DataType.base, DataType.mk.injEq] at same
  exact same.1

/-! ## Classes are no other types -/

namespace Registry

variable {r : Registry} {t : DataType}

/-- A class is neither an array nor of any other kind. -/
theorem of_isClass (isClass : r.isClass t) :
    t.isArray = false ∧ r.fundamental? t = none ∧ r.isEnum t = false := by
  simp only [Registry.isClass, Bool.and_eq_true, Bool.not_eq_true'] at isClass
  obtain ⟨noArray, found⟩ := isClass
  obtain ⟨c, found⟩ := Option.isSome_iff_exists.mp found
  obtain ⟨decl, known, isClassType⟩ := Option.bind_eq_some_iff.mp found
  cases decl <;> cases isClassType
  simp [fundamental?, isEnum, enum?, noArray, known, TypeDecl.fundamental?, TypeDecl.enum?]

theorem isClass_congr {u : DataType} (same : t.base = u.base) : r.isClass t = r.isClass u := by
  simp only [DataType.base, DataType.mk.injEq, Qualifiers.mk.injEq] at same
  rw [isClass, isClass, same.1, same.2.2.2]

end Registry

namespace StandardConversion

variable {r : Registry} {source middle dest : DataType}

/-! ## Inheritance steps between types -/

/-- Inheritance steps from a type up to another: none if they are the same up to const and
reference, else those along the base chain of a class. -/
def climb? (r : Registry) (source dest : DataType) : Option Nat :=
  if source.sameBase dest then some 0 else inheritanceSteps? r source dest

/-- A class climbs to itself in no steps along its base chain too. -/
theorem climb?_eq_some_iff {depth : Nat} :
    climb? r source dest = some depth ↔
      (source.base = dest.base ∧ depth = 0) ∨
        (r.isClass source ∧ r.isClass dest ∧
          r.inheritanceDepth? source.typeHash dest.typeHash = some depth) := by
  unfold climb? inheritanceSteps?
  by_cases same : source.base = dest.base
  · have sameBase : source.sameBase dest := beq_iff_eq.mpr same
    rw [if_pos sameBase, Option.some_inj]
    constructor
    · rintro rfl
      exact .inl ⟨same, rfl⟩
    · rintro (⟨-, rfl⟩ | ⟨isClass, -, found⟩)
      · rfl
      · -- The chain starts with the class, which stands at no other position.
        have hash : source.typeHash = dest.typeHash := DataType.typeHash_eq_of_base same
        simp only [Registry.isClass, Bool.and_eq_true] at isClass
        have starts := (Registry.isBaseChain_baseChain r source.typeHash).head?_eq isClass.2
        rw [List.head?_eq_getElem?, ← Registry.inheritanceDepth?_eq_some_iff, hash] at starts
        rw [hash] at found
        exact Option.some.inj (starts.symm.trans found)
  · have sameBase : ¬source.sameBase dest := fun h => same (beq_iff_eq.mp h)
    rw [if_neg sameBase]
    simp [same, and_assoc]

/-- Steps add up, whichever of the two climbs stays with its type. -/
theorem climb?_trans (acyclic : r.Acyclic) {m n : Nat} (first : climb? r source middle = some m)
    (second : climb? r middle dest = some n) : climb? r source dest = some (m + n) := by
  rw [climb?_eq_some_iff] at first second ⊢
  rcases first with ⟨same, rfl⟩ | ⟨isClass, isBase, depth⟩
  · -- The source is the middle up to const and reference, and climbs as it does.
    have hash : source.typeHash = middle.typeHash := DataType.typeHash_eq_of_base same
    rw [Nat.zero_add, same, hash, Registry.isClass_congr same]
    exact second
  · right
    rcases second with ⟨same, rfl⟩ | ⟨-, isRoot, depth'⟩
    · have hash : middle.typeHash = dest.typeHash := DataType.typeHash_eq_of_base same
      rw [Nat.add_zero, ← Registry.isClass_congr same, ← hash]
      exact ⟨isClass, isBase, depth⟩
    · exact ⟨isClass, isRoot, acyclic.inheritanceDepth?_add depth depth'⟩

/-! ## Direct bindings -/

/-- A type that conversions know: it stands for a type, and that type is registered. -/
def Known (r : Registry) (t : DataType) : Prop := ¬t.isNull ∧ r.isRegistered t

/-- A reference binds a value of its own type or of a derived class. If the value is const, the
reference has to be. -/
structure Binds (r : Registry) (source dest : DataType) (depth : Nat) : Prop where
  source_known : Known r source
  dest_known : Known r dest
  reference : dest.isReference
  const : source.isConst → dest.isConst
  climbs : climb? r source dest = some depth

/-- The step that binds the value itself. -/
def bindingStep (source dest : DataType) (depth : Nat) : ConversionStep :=
  { addsConst := addedConst source dest, depth, binding := .reference }

theorem bindMutable_eq (nonConst : ¬dest.isConst) (const : source.isConst → dest.isConst) :
    bindMutable r source dest =
      ((climb? r source dest).map fun depth => step (bindingStep source dest depth)).getD
        notConvertible := by
  have noConst : ¬source.isConst := fun h => nonConst (const h)
  have unchanged : addedConst source dest = false := by simp [addedConst, nonConst]
  simp only [bindMutable, climb?, bindingStep, unchanged, if_neg noConst]
  split
  · rfl
  · cases inheritanceSteps? r source dest <;> rfl

theorem sameType_eq (reference : dest.isReference) :
    sameType r source dest = step (bindingStep source dest 0) := by
  rw [sameType, if_pos reference]
  rfl

theorem toBase_eq (reference : dest.isReference) {depth : Nat}
    (steps : inheritanceSteps? r source dest = some depth) :
    toBase r source dest = step (bindingStep source dest depth) := by
  simp only [toBase, steps, if_pos reference]
  rfl

theorem isClass_of_steps {depth : Nat} (steps : inheritanceSteps? r source dest = some depth) :
    r.isClass source ∧ r.isClass dest := by
  unfold inheritanceSteps? at steps
  split at steps
  · rename_i classes
    exact Bool.and_eq_true_iff.mp classes
  · cases steps

/-- Whatever binds directly is found. -/
theorem compute_of_binds {depth : Nat} (binds : Binds r source dest depth) :
    compute r source dest = step (bindingStep source dest depth) := by
  obtain ⟨⟨notNull, registered⟩, ⟨notNull', registered'⟩, reference, const, climbs⟩ := binds
  have known : ¬(source.isNull || dest.isNull || !r.isRegistered source ||
      !r.isRegistered dest) := by
    simp [notNull, notNull', registered, registered']
  rw [compute, if_neg known]
  by_cases isConst : dest.isConst
  · -- A const reference is reached through the questions for all other destinations.
    have notMutable : ¬dest.isMutableRef := by simp [DataType.isMutableRef, isConst]
    rw [if_neg notMutable]
    unfold climb? at climbs
    split at climbs
    · rename_i same
      cases climbs
      rw [if_pos same, sameType_eq reference]
    · -- Classes pass the questions about arrays, fundamental types and enums.
      rename_i different
      obtain ⟨isClass, isBase⟩ := isClass_of_steps climbs
      obtain ⟨noArray, noKind, noEnum⟩ := Registry.of_isClass isClass
      obtain ⟨noArray', -, -⟩ := Registry.of_isClass isBase
      simp only [if_neg different, noArray, noArray', noKind, noEnum, Bool.or_self,
        Bool.false_eq_true, if_false]
      exact toBase_eq reference climbs
  · have mutable : dest.isMutableRef := by simp [DataType.isMutableRef, isConst, reference]
    rw [if_pos mutable, bindMutable_eq isConst const, climbs]
    rfl

theorem known_of_isConvertible (possible : (compute r source dest).isConvertible) :
    Known r source ∧ Known r dest := by
  unfold compute at possible
  split at possible
  · cases possible
  · rename_i known
    simp only [Bool.or_eq_true, Bool.not_eq_true', not_or, Bool.not_eq_false] at known
    exact ⟨⟨known.1.1.1, known.1.2⟩, known.1.1.2, known.2⟩

/-- What is found to bind directly is reached from the source. -/
theorem climbs_of_isReferenceBinding (binding : (compute r source dest).isReferenceBinding) :
    ∃ depth, climb? r source dest = some depth := by
  unfold climb?
  split
  · exact ⟨0, rfl⟩
  rename_i different
  -- The three ways to a direct binding. Two of them ask for inheritance steps.
  rcases cases_of_isReferenceBinding binding with ⟨-, way⟩ | ⟨-, same, -⟩ | ⟨-, -, way⟩
  · rw [way, bindMutable, if_neg different] at binding
    cases steps : inheritanceSteps? r source dest with
    | none =>
      simp only [steps, ite_self] at binding
      cases binding
    | some depth => exact ⟨depth, rfl⟩
  · exact absurd same different
  · rw [way, toBase] at binding
    cases steps : inheritanceSteps? r source dest with
    | none =>
      rw [steps] at binding
      cases binding
    | some depth => exact ⟨depth, rfl⟩

/-- **Direct binding**: the steps that bind the value itself are exactly those that `Binds`
describes. -/
theorem compute_eq_step_iff {s : ConversionStep} :
    compute r source dest = step s ∧ s.binding = .reference ↔
      ∃ depth, Binds r source dest depth ∧ s = bindingStep source dest depth := by
  constructor
  · rintro ⟨found, binding⟩
    have isBinding : (compute r source dest).isReferenceBinding := by
      simp [found, isReferenceBinding, step?, binding]
    have direct := direct_of_isReferenceBinding isBinding
    obtain ⟨depth, climbs⟩ := climbs_of_isReferenceBinding isBinding
    obtain ⟨known, known'⟩ : Known r source ∧ Known r dest := by
      apply known_of_isConvertible
      rw [found]
      rfl
    -- The step that was found is the one for this binding, as there is only one result.
    have binds : Binds r source dest depth :=
      ⟨known, known', direct.reference, direct.const, climbs⟩
    rw [compute_of_binds binds] at found
    cases found
    exact ⟨depth, binds, rfl⟩
  · rintro ⟨depth, binds, rfl⟩
    exact ⟨compute_of_binds binds, rfl⟩

/-! ## Composition -/

theorem Binds.trans (acyclic : r.Acyclic) {m n : Nat} (first : Binds r source middle m)
    (second : Binds r middle dest n) : Binds r source dest (m + n) where
  source_known := first.source_known
  dest_known := second.dest_known
  reference := second.reference
  const isConst := second.const (first.const isConst)
  climbs := climb?_trans acyclic first.climbs second.climbs

/-- Const is added by one of two bindings, unless it was there from the start. -/
theorem addedConst_trans (first : source.isConst → middle.isConst)
    (second : middle.isConst → dest.isConst) :
    addedConst source dest = (addedConst source middle || addedConst middle dest) := by
  revert first second
  unfold addedConst
  cases source.isConst <;> cases middle.isConst <;> cases dest.isConst <;> decide

/-- Reference bindings compose: if a reference binds a value directly, and another reference binds
the first one directly, then the second one binds the value directly. That is an exact match with
the inheritance steps of both, and it adds const exactly if one of the two adds it. -/
theorem reference_bindings_compose (acyclic : r.Acyclic) {a b : ConversionStep}
    (first : compute r source middle = step a) (firstBinds : a.binding = .reference)
    (second : compute r middle dest = step b) (secondBinds : b.binding = .reference) :
    ∃ c, compute r source dest = step c ∧ c.binding = .reference ∧ c.rank = .exactMatch ∧
      c.depth = a.depth + b.depth ∧ (c.addsConst ↔ a.addsConst ∨ b.addsConst) := by
  obtain ⟨m, binds, rfl⟩ := compute_eq_step_iff.mp ⟨first, firstBinds⟩
  obtain ⟨n, binds', rfl⟩ := compute_eq_step_iff.mp ⟨second, secondBinds⟩
  have whole := compute_of_binds (binds.trans acyclic binds')
  refine ⟨_, whole, rfl, rfl, rfl, ?_⟩
  rw [← Bool.or_eq_true]
  simp only [bindingStep, addedConst_trans binds.const binds'.const]

/-- A value of a class three steps below the root, a mutable reference to the class above it and a
const reference to the root. -/
theorem reference_bindings_compose_line :
    let line := Registry.ofBases
      [(⟨14⟩, some ⟨13⟩), (⟨13⟩, some ⟨12⟩), (⟨12⟩, some ⟨11⟩), (⟨11⟩, none)]
    line.Acyclic ∧
      compute line (.simple ⟨14⟩) (.reference ⟨13⟩) = step { depth := 1, binding := .reference } ∧
      compute line (.reference ⟨13⟩) (.constRef ⟨11⟩) =
        step { addsConst := true, depth := 2, binding := .reference } ∧
      ∃ c, compute line (.simple ⟨14⟩) (.constRef ⟨11⟩) = step c ∧ c.binding = .reference ∧
        c.rank = .exactMatch ∧ c.depth = 1 + 2 ∧ c.addsConst := by
  intro line
  have acyclic : line.Acyclic := Registry.acyclic_of_rank (fun h => h.bits.toNat) (by decide)
  have first : compute line (.simple ⟨14⟩) (.reference ⟨13⟩) =
      step { depth := 1, binding := .reference } := by decide
  have second : compute line (.reference ⟨13⟩) (.constRef ⟨11⟩) =
      step { addsConst := true, depth := 2, binding := .reference } := by decide
  obtain ⟨c, found, binding, rank, depth, const⟩ :=
    reference_bindings_compose acyclic first rfl second rfl
  exact ⟨acyclic, first, second, c, found, binding, rank, depth, const.mpr (.inr rfl)⟩

end StandardConversion

end ScriptSemantics
