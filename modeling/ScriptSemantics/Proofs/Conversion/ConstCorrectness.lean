import ScriptSemantics.Proofs.Conversion.Validity
import ScriptSemantics.Proofs.Registry.Changes
import ScriptSemantics.Proofs.Registry.Inheritance

/-!
# Const Correctness of Conversions

No conversion drops a const, and no mutable reference binds a temporary. The guarantee has three
sources:

1. A mutable reference takes a standard step only from a mutable value of its own type or of a
   derived class, and binds that value itself (`binds_of_isMutableRef`).
2. Constructors make temporaries, so they are not looked at for a mutable reference
   (`of_mem_constructorCandidates`).
3. A cast runs on the source as its object, which is mutable unless the cast is const. Its result
   goes through a standard step again, where the first point holds (`of_throughCast?`).

The main statement is `conversion_const_correct`.
-/

namespace ScriptSemantics

/-! ## Standard steps -/

namespace StandardConversion

variable {r : Registry} {source dest : DataType}

theorem isA_of_steps {depth : Nat} (steps : inheritanceSteps? r source dest = some depth) :
    r.IsA source dest := by
  unfold inheritanceSteps? at steps
  split at steps
  · rename_i classes
    rw [Bool.and_eq_true] at classes
    exact Registry.isA_of_inheritanceDepth? classes.1 classes.2 steps
  · cases steps

theorem binds_of_bindMutable (possible : (bindMutable r source dest).isConvertible) :
    ¬source.isConst ∧ (bindMutable r source dest).isReferenceBinding ∧ r.IsA source dest := by
  revert possible
  unfold bindMutable
  split
  · exact nofun
  rename_i nonConst
  split
  · rename_i same
    exact fun _ => ⟨nonConst, rfl, .inl (eq_of_beq same)⟩
  · split
    · rename_i depth steps
      exact fun _ => ⟨nonConst, rfl, isA_of_steps steps⟩
    · exact nofun

/-- A mutable reference binds mutable values of its own type or of a derived class, and nothing
else. -/
theorem binds_of_isMutableRef (mutable : dest.isMutableRef)
    (possible : (compute r source dest).isConvertible) :
    ¬source.isConst ∧ (compute r source dest).isReferenceBinding ∧ r.IsA source dest := by
  revert possible
  unfold compute
  split
  · exact nofun
  · exact binds_of_bindMutable

end StandardConversion

/-! ## Functions in use -/

namespace Conversion

variable {r : Registry} {source dest : DataType} {policy : ConversionPolicy} {c : Conversion}
  {f : FunctionDecl}

/-- The function is a constructor of the destination, which is no mutable reference. -/
structure ByConstructor (r : Registry) (dest : DataType) (f : FunctionDecl) : Prop where
  isClass : r.isClass dest
  declared : f ∈ r.constructors dest.typeHash
  notMutable : ¬dest.isMutableRef

/-- The function is a cast of the source class or of one that it inherits from. It runs on a const
source only if it is const itself, and what a mutable reference binds is what it refers to. -/
structure ByCast (r : Registry) (source dest : DataType) (f : FunctionDecl) : Prop where
  isClass : r.isClass source
  declared : ∃ owner, Relation.ReflTransGen r.Extends source.typeHash owner ∧ f ∈ r.casts owner
  const : source.isConst → f.isConst
  result : dest.isMutableRef → f.returnType.isMutableRef ∧ r.IsA f.returnType dest

theorem of_admits (admitted : policy.admits f) :
    ¬f.isDeleted ∧ (f.isExplicit → policy = .allowExplicit) := by
  simp only [ConversionPolicy.admits, Bool.and_eq_true, Bool.or_eq_true, Bool.not_eq_true',
    beq_iff_eq] at admitted
  refine ⟨by simp [admitted.1], fun isExplicit => admitted.2.resolve_left ?_⟩
  simp [isExplicit]

theorem function?_of_throughConstructor? (found : throughConstructor? r source dest f = some c) :
    c.function? = some f.hash := by
  unfold throughConstructor? at found
  split at found
  · cases found
  · simp only at found
    split at found <;> cases found
    rfl

theorem of_mem_constructorCandidates (member : c ∈ constructorCandidates r source dest policy) :
    ∃ f, c.function? = some f.hash ∧ policy.admits f ∧ ByConstructor r dest f := by
  unfold constructorCandidates at member
  split at member
  · rename_i usable
    rw [Bool.and_eq_true, Bool.not_eq_true'] at usable
    obtain ⟨f, listed, found⟩ := List.mem_filterMap.mp member
    obtain ⟨declared, admitted⟩ := List.mem_filter.mp listed
    exact ⟨f, function?_of_throughConstructor? found, admitted, usable.1, declared,
      by simp [usable.2]⟩
  · cases member

/-- Both steps around a cast are standard ones: the one in front binds the object, and the one
behind binds what the cast returns. -/
theorem of_throughCast? {owner : TypeHash} (found : throughCast? r source dest owner f = some c) :
    c.function? = some f.hash ∧ (source.isConst → f.isConst) ∧
      (dest.isMutableRef → f.returnType.isMutableRef ∧ r.IsA f.returnType dest) := by
  simp only [throughCast?] at found
  split at found
  · cases found
  rename_i refers
  split at found
  · rename_i possible
    rw [Bool.and_eq_true] at possible
    cases found
    refine ⟨rfl, fun isConst => ?_, fun mutable => ?_⟩
    · -- The object of a cast that is not const is a mutable reference.
      by_contra mutating
      have object :
          (⟨owner, { isConst := f.isConst, isReference := true }⟩ : DataType).isMutableRef := by
        simpa [DataType.isMutableRef, DataType.isReference, DataType.isConst] using mutating
      exact (StandardConversion.binds_of_isMutableRef object possible.1).1 isConst
    · obtain ⟨nonConst, -, isA⟩ := StandardConversion.binds_of_isMutableRef mutable possible.2
      refine ⟨?_, isA⟩
      rw [DataType.isMutableRef, Bool.and_eq_true, Bool.not_eq_true']
      exact ⟨by simpa [mutable] using refers, by simpa using nonConst⟩
  · cases found

theorem of_mem_castCandidates (member : c ∈ castCandidates r source dest policy) :
    ∃ f, c.function? = some f.hash ∧ policy.admits f ∧ ByCast r source dest f := by
  unfold castCandidates at member
  split at member
  · rename_i isClass
    obtain ⟨owner, inherited, inOwner⟩ := List.mem_flatMap.mp member
    obtain ⟨f, listed, found⟩ := List.mem_filterMap.mp inOwner
    obtain ⟨declared, admitted⟩ := List.mem_filter.mp listed
    obtain ⟨function, const, result⟩ := of_throughCast? found
    exact ⟨f, function, admitted, isClass,
      ⟨owner, Registry.reaches_of_mem_baseChain inherited, declared⟩, const, result⟩
  · cases member

/-- A conversion that was found is the standard step, or it goes through a constructor or a cast. -/
theorem cases_of_tryCompute (found : tryCompute r source dest policy = .ok c) :
    (c = standard (.compute r source dest) source dest ∧
        (StandardConversion.compute r source dest).isConvertible) ∨
      ∃ f, c.function? = some f.hash ∧ policy.admits f ∧
        (ByConstructor r dest f ∨ ByCast r source dest f) := by
  simp only [tryCompute] at found
  split at found
  · rename_i possible
    cases found
    exact .inl ⟨rfl, possible⟩
  · split at found
    · rename_i chosen
      cases found
      right
      rcases List.mem_append.mp (mem_of_findUserDefined chosen) with ofConstructor | ofCast
      · obtain ⟨f, function, admitted, use⟩ := of_mem_constructorCandidates ofConstructor
        exact ⟨f, function, admitted, .inl use⟩
      · obtain ⟨f, function, admitted, use⟩ := of_mem_castCandidates ofCast
        exact ⟨f, function, admitted, .inr use⟩
    · cases found
    · cases found

/-- The function in use is the registered one. -/
theorem function?_of_use (sound : r.SoundFunctions)
    (use : ByConstructor r dest f ∨ ByCast r source dest f) : r.function? f.hash = some f := by
  rcases use with ofConstructor | ofCast
  · exact sound.of_mem_registered ofConstructor.declared
  · obtain ⟨owner, -, declared⟩ := ofCast.declared
    exact sound.of_mem_registered declared

/-! ## The main statement -/

/-- Every conversion that is found is const-correct. Without a function, a mutable reference binds
the source itself, which is mutable and of its type or of a derived class. With a function, that
function is not deleted, is explicit only where explicit ones are allowed, and is a constructor or a
cast that does not drop const: a constructor never makes what a mutable reference binds, and a cast
does so only by returning a mutable reference itself. -/
theorem conversion_const_correct (found : tryCompute r source dest policy = .ok c) :
    (c.function? = none ∧
        (dest.isMutableRef → ¬source.isConst ∧ c.isReferenceBinding ∧ r.IsA source dest)) ∨
      ∃ f, c.function? = some f.hash ∧ (r.SoundFunctions → r.function? f.hash = some f) ∧
        ¬f.isDeleted ∧ (f.isExplicit → policy = .allowExplicit) ∧
        (ByConstructor r dest f ∨ ByCast r source dest f) := by
  rcases cases_of_tryCompute found with ⟨rfl, possible⟩ | ⟨f, function, admitted, use⟩
  · exact .inl ⟨rfl, fun mutable => StandardConversion.binds_of_isMutableRef mutable possible⟩
  · obtain ⟨available, policed⟩ := of_admits admitted
    exact .inr ⟨f, function, fun sound => function?_of_use sound use, available, policed, use⟩

/-- Handles are holders, and a holder casts to the circle that it holds: with one cast for mutable
holders, and one for const ones too. -/
def gallery : Registry :=
  let shape (hash : TypeHash) (name : String) (base : Option TypeHash) (casts : List TypeHash) :
      TypeHash × TypeDecl :=
    (hash, .classType { hash, name, qualifiedName := name, base, casts })
  let types : Table TypeHash TypeDecl := { entries := [
    shape ⟨1⟩ "Shape" none [],
    shape ⟨2⟩ "Circle" (some ⟨1⟩) [],
    shape ⟨3⟩ "Holder" none [⟨31⟩, ⟨32⟩],
    shape ⟨4⟩ "Handle" (some ⟨3⟩) []] }
  let cast (hash : TypeHash) (traits : FunctionTraits) : FunctionDecl :=
    { hash, name := "$cast", kind := .cast, owner := some ⟨3⟩, returnType := .reference ⟨2⟩,
      traits }
  (({ types } : Registry).addFunction (cast ⟨31⟩ {})).addFunction (cast ⟨32⟩ { isConst := true })

/-- A mutable reference to a shape is taken from a const handle, through the cast for const holders.
Both ends of the conversion go up a base chain. -/
theorem conversion_const_correct_gallery :
    gallery.SoundFunctions ∧
      ∃ c f, tryCompute gallery (.constant ⟨4⟩) (.reference ⟨1⟩) .implicitOnly = .ok c ∧
        c.function? = some ⟨32⟩ ∧ gallery.function? ⟨32⟩ = some f ∧ ¬f.isDeleted ∧
        (ByConstructor gallery (.reference ⟨1⟩) f ∨
          ByCast gallery (.constant ⟨4⟩) (.reference ⟨1⟩) f) := by
  have sound : gallery.SoundFunctions :=
    ((Registry.SoundFunctions.ofTypes _).addFunction _).addFunction _
  have found : tryCompute gallery (.constant ⟨4⟩) (.reference ⟨1⟩) .implicitOnly =
      .ok (userDefined (.step { depth := 1, binding := .reference }) ⟨32⟩
        (.step { depth := 1, binding := .reference }) (.constant ⟨4⟩) (.reference ⟨1⟩)) := by
    decide +kernel
  refine ⟨sound, ?_⟩
  rcases conversion_const_correct found with ⟨standard, -⟩ | ⟨f, function, known, available, -, use⟩
  · cases standard
  · have here : f.hash = ⟨32⟩ := (Option.some.inj function).symm
    rw [here] at known
    exact ⟨_, f, found, rfl, known sound, available, use⟩

end Conversion

end ScriptSemantics
