import ScriptSemantics.Overload.Resolution
import ScriptSemantics.Proofs.Conversion.DeclarationOrder

/-!
# Deleted Marks in Overload Resolution

A function that is marked as deleted is declared and not to be called. Conversions keep to that:
they leave out deleted constructors and casts. Overload resolution does not look at the mark of the
functions it chooses from.

Two registries are remarkings of each other if they differ in such marks only, and not in those of
constructors and casts. Everything that is read off types is the same in both, and so are all
conversions and initializations. A call is resolved in both in the same way: `resolve_remarked`.
-/

namespace ScriptSemantics

/-- The function with its deleted mark taken off. -/
def FunctionDecl.unmarked (f : FunctionDecl) : FunctionDecl :=
  { f with traits := { f.traits with isDeleted := false } }

/-- The same declarations up to deleted marks, with the same marks on constructors and casts. -/
structure Registry.Remarked (r r' : Registry) : Prop where
  types : r'.types = r.types
  functions : ∀ hash, (r'.function? hash).map FunctionDecl.unmarked =
    (r.function? hash).map FunctionDecl.unmarked
  members : ∀ owner c, r.class? owner = some c → ∀ hash ∈ c.constructors ++ c.casts,
    r'.function? hash = r.function? hash

namespace Registry.Remarked

variable {r r' : Registry}

/-! ## What is read off types -/

theorem type?_eq (h : r.Remarked r') : r'.type? = r.type? := by
  funext hash
  rw [type?, type?, h.types]

theorem class?_eq (h : r.Remarked r') : r'.class? = r.class? := by
  funext hash
  rw [class?, class?, h.type?_eq]

theorem isRegistered_eq (h : r.Remarked r') : r'.isRegistered = r.isRegistered := by
  funext t
  rw [isRegistered, isRegistered, h.type?_eq]

theorem fundamental?_eq (h : r.Remarked r') : r'.fundamental? = r.fundamental? := by
  funext t
  rw [fundamental?, fundamental?, h.type?_eq]

theorem isEnum_eq (h : r.Remarked r') : r'.isEnum = r.isEnum := by
  funext t
  rw [isEnum, isEnum, enum?, enum?, h.type?_eq]

theorem isClass_eq (h : r.Remarked r') : r'.isClass = r.isClass := by
  funext t
  rw [isClass, isClass, h.class?_eq]

theorem isAtomicValue_eq (h : r.Remarked r') : r'.isAtomicValue = r.isAtomicValue := by
  funext t
  rw [isAtomicValue, isAtomicValue, h.type?_eq]

theorem listElement?_eq (h : r.Remarked r') : r'.listElement? = r.listElement? := by
  funext t
  rw [listElement?, listElement?, listElementOf?, listElementOf?, h.class?_eq]

theorem baseChain_eq (h : r.Remarked r') : r'.baseChain = r.baseChain := by
  have chains (limit : Nat) (visited : List TypeHash) (hash : TypeHash) :
      r'.chainFrom limit visited hash = r.chainFrom limit visited hash := by
    induction limit generalizing visited hash with
    | zero => rfl
    | succ limit ih => simp only [chainFrom, h.class?_eq, ih]
  funext hash
  rw [baseChain, baseChain, chains, h.types]

theorem inheritanceDepth?_eq (h : r.Remarked r') : r'.inheritanceDepth? = r.inheritanceDepth? := by
  funext derived base
  rw [inheritanceDepth?, inheritanceDepth?, h.baseChain_eq]

/-! ## Constructors and casts -/

/-- Functions that a class lists among its constructors and casts are the same. -/
theorem registered_eq (h : r.Remarked r') {members : ClassDecl → List TypeHash}
    (among : ∀ c : ClassDecl, ∀ hash ∈ members c, hash ∈ c.constructors ++ c.casts)
    (owner : TypeHash) :
    r'.registered ((r'.class? owner).elim [] members) =
      r.registered ((r.class? owner).elim [] members) := by
  rw [h.class?_eq]
  cases isClass : r.class? owner with
  | none => rfl
  | some c =>
    refine List.filterMap_congr fun hash member => ?_
    exact h.members owner c isClass hash (among c hash member)

theorem constructors_eq (h : r.Remarked r') : r'.constructors = r.constructors := by
  funext owner
  exact h.registered_eq (fun _ _ member => List.mem_append_left _ member) owner

theorem casts_eq (h : r.Remarked r') : r'.casts = r.casts := by
  funext owner
  exact h.registered_eq (fun _ _ member => List.mem_append_right _ member) owner

theorem isCopyConstructible_eq (h : r.Remarked r') :
    r'.isCopyConstructible = r.isCopyConstructible := by
  funext hash
  simp only [isCopyConstructible, copyConstructor?, h.class?_eq, h.constructors_eq]

theorem defaultConstructor?_eq (h : r.Remarked r') :
    r'.defaultConstructor? = r.defaultConstructor? := by
  funext hash
  rw [defaultConstructor?, defaultConstructor?, h.constructors_eq]

/-! ## Conversions -/

theorem compute_eq (h : r.Remarked r') :
    StandardConversion.compute r' = StandardConversion.compute r := by
  funext source dest
  simp only [StandardConversion.compute, StandardConversion.bindMutable,
    StandardConversion.sameType, StandardConversion.toBase, StandardConversion.inheritanceSteps?,
    h.isRegistered_eq, h.fundamental?_eq, h.isEnum_eq, h.isClass_eq, h.inheritanceDepth?_eq,
    h.isCopyConstructible_eq]

theorem candidates_eq (h : r.Remarked r') : Conversion.candidates r' = Conversion.candidates r := by
  funext source dest policy
  simp only [Conversion.candidates, Conversion.constructorCandidates, Conversion.castCandidates,
    Conversion.throughConstructor?_congr h.compute_eq, Conversion.throughCast?_congr h.compute_eq,
    h.isClass_eq, h.constructors_eq, h.casts_eq, h.baseChain_eq]

theorem tryCompute_eq (h : r.Remarked r') : Conversion.tryCompute r' = Conversion.tryCompute r := by
  funext source dest policy
  simp only [Conversion.tryCompute, Conversion.findUserDefined, h.compute_eq, h.candidates_eq]

/-! ## Initializations -/

theorem ofType_eq (h : r.Remarked r') : Initialization.ofType r' = Initialization.ofType r := by
  funext dest source style
  simp only [Initialization.ofType, h.tryCompute_eq]

theorem default_eq (h : r.Remarked r') : Initialization.default r' = Initialization.default r := by
  funext dest
  simp only [Initialization.default, h.isAtomicValue_eq, h.fundamental?_eq, h.class?_eq,
    h.defaultConstructor?_eq]

theorem ofList_eq (h : r.Remarked r') : Initialization.ofList r' = Initialization.ofList r := by
  funext dest elements
  simp only [Initialization.ofList, Initialization.ofClassList, Initialization.listConstructor?,
    Initialization.listParameter?, Initialization.listUsableConstructors, h.isAtomicValue_eq,
    h.listElement?_eq, h.default_eq, h.class?_eq, h.constructors_eq]

mutual

theorem ofExpression_eq (h : r.Remarked r') (e : Expression) (dest : DataType) :
    Initialization.ofExpression r' e dest = Initialization.ofExpression r e dest := by
  cases e with
  | list elements =>
    rw [Initialization.ofExpression, Initialization.ofExpression, h.ofList_eq,
      h.elementsOf_eq elements]
  | literal t | named t | call _ t | lambda t =>
    rw [Initialization.ofExpression, Initialization.ofExpression, h.ofType_eq]

theorem elementsOf_eq (h : r.Remarked r') (es : List Expression) :
    Initialization.elementsOf r' es = Initialization.elementsOf r es := by
  cases es with
  | nil => rw [Initialization.elementsOf, Initialization.elementsOf]
  | cons e es =>
    rw [Initialization.elementsOf, Initialization.elementsOf, h.elementsOf_eq es]
    have same : Initialization.ofExpression r' e = Initialization.ofExpression r e :=
      funext (h.ofExpression_eq e)
    rw [same]

end

theorem into_eq (h : r.Remarked r') (argument : Argument) :
    argument.into r' = argument.into r := by
  funext param
  cases argument with
  | type t => rw [Argument.into, Argument.into, h.ofType_eq]
  | expression e => rw [Argument.into, Argument.into, h.ofExpression_eq]

/-! ## Calls -/

theorem bindArguments_eq (h : r.Remarked r') (index : Nat) (params : List Param)
    (arguments : List Argument) :
    Candidate.bindArguments r' index params arguments =
      Candidate.bindArguments r index params arguments := by
  induction params generalizing index arguments with
  | nil => rfl
  | cons param params ih =>
    cases arguments with
    | nil => rfl
    | cons argument arguments =>
      simp only [Candidate.bindArguments, h.into_eq, ih]

/-- The verdict on a function is the same without its mark. -/
theorem evaluate_unmarked (h : r.Remarked r') (mode : ImplicitObject) (f : FunctionDecl)
    (arguments : List Argument) :
    Candidate.evaluate r' mode f arguments = Candidate.evaluate r mode f.unmarked arguments := by
  have object : Candidate.bindObject r' f = Candidate.bindObject r f.unmarked := by
    funext t
    cases t with
    | none => rfl
    | some t =>
      simp only [Candidate.bindObject, h.compute_eq]
      rfl
  simp only [Candidate.evaluate, h.bindArguments_eq, object]
  rfl

theorem refl (r : Registry) : r.Remarked r := ⟨rfl, fun _ => rfl, fun _ _ _ _ _ => rfl⟩

theorem evaluate_eq (h : r.Remarked r') (mode : ImplicitObject) (arguments : Arguments)
    (hash : TypeHash) :
    Resolution.evaluate r' mode arguments hash = Resolution.evaluate r mode arguments hash := by
  have same := h.functions hash
  unfold Resolution.evaluate
  cases found : r.function? hash with
  | none =>
    rw [found, Option.map_none, Option.map_eq_none_iff] at same
    rw [same]
  | some f =>
    rw [found, Option.map_some] at same
    obtain ⟨f', found', unmarked⟩ := Option.map_eq_some_iff.mp same
    rw [found']
    -- Both functions are evaluated as the one without a mark.
    show Candidate.evaluate r' mode f' arguments.toList =
      Candidate.evaluate r mode f arguments.toList
    rw [h.evaluate_unmarked, (refl r).evaluate_unmarked mode f, unmarked]

/-- **Marks play no part**: a call is resolved in the same way, with the same reports, whichever of
its candidates are marked as deleted. -/
theorem resolve_remarked (h : r.Remarked r') (mode : ImplicitObject) (candidates : List TypeHash)
    (arguments : Arguments) :
    Resolution.resolve r' mode candidates arguments =
      Resolution.resolve r mode candidates arguments := by
  simp only [Resolution.resolve, Resolution.viable, h.evaluate_eq]

end Registry.Remarked

end ScriptSemantics
