import ScriptSemantics.Overload.Resolution
import ScriptSemantics.Proofs.Conversion.Validity

/-!
# What a Viable Candidate Is Made Of

Matching a function against a call splits off the object, counts the arguments, binds the object and
initializes one parameter after the other. `Candidate.Fits` says what a candidate holds after all of
this has succeeded, and `Candidate.fits_of_evaluate` is the one place where the steps are looked at.

The initializations of one argument, for whatever parameter, are valid and of one shape.
-/

namespace ScriptSemantics

/-! ## One argument -/

namespace Argument

def isBraceList : Argument → Bool
  | expression (.list _) => true
  | _ => false

variable {r : Registry} {param : DataType}

/-- An argument is a brace list, or it is a value of some type. -/
theorem into_cases (r : Registry) (argument : Argument) (param : DataType) :
    (argument.isBraceList = true ∧
        ∃ elements, argument.into r param = Initialization.ofList r param elements) ∨
      (argument.isBraceList = false ∧
        ∃ t, argument.into r param = Initialization.ofType r param t .copy) := by
  cases argument with
  | type t => exact .inr ⟨rfl, t, rfl⟩
  | expression e =>
    cases e with
    | list elements =>
      refine .inl ⟨rfl, Initialization.elementsOf r elements, ?_⟩
      rw [into, Initialization.ofExpression]
    | literal t | named t | call _ t =>
      refine .inr ⟨rfl, t, ?_⟩
      rw [into, Initialization.ofExpression]
    | lambda closure =>
      refine .inr ⟨rfl, .simple closure, ?_⟩
      rw [into, Initialization.ofExpression]

/-- Brace lists are initializations from parts, all other arguments are values. -/
theorem isStructured_into {argument : Argument}
    (succeeded : (argument.into r param).failure? = none) :
    (argument.into r param).isStructured = argument.isBraceList := by
  rcases argument.into_cases r param with ⟨list, elements, h⟩ | ⟨value, t, h⟩
  · -- Lists are built from parts in every branch, or fail.
    rw [list]
    rw [h] at succeeded ⊢
    exact Initialization.failedOrStructured_ofList r param elements succeeded
  · -- Values are converted, or fail.
    rw [value]
    rcases Initialization.ofType_cases r param t .copy with
      ⟨failure, failed⟩ | ⟨manner, c, target, converted, -⟩
    · rw [h, failed] at succeeded
      cases succeeded
    · rw [h, converted]
      rfl

theorem isValid_into (noNull : r.type? .null = none) {argument : Argument}
    (succeeded : (argument.into r param).failure? = none) :
    (argument.into r param).isValid := by
  rcases argument.into_cases r param with ⟨-, elements, h⟩ | ⟨-, t, h⟩
  · rw [h] at succeeded ⊢
    have structured := Initialization.failedOrStructured_ofList r param elements succeeded
    cases shape : Initialization.ofList r param elements with
    | constructed => rfl
    | failed | converted =>
      rw [shape] at structured
      cases structured
  · rcases Initialization.ofType_cases r param t .copy with
      ⟨failure, failed⟩ | ⟨manner, c, target, converted, found⟩
    · rw [h, failed] at succeeded
      cases succeeded
    · rw [h, converted]
      exact Conversion.isValid_of_tryCompute noNull found

end Argument

/-! ## The object -/

/-- The type of the object that a call is made on. -/
def ImplicitObject.type? (arguments : List Argument) : ImplicitObject → Option DataType
  | .none => .none
  | .provided t => some t
  | .firstArgument => arguments.head?.map Argument.dataType

namespace Candidate

/-- How many arguments the object of a member uses up. -/
def offset (mode : ImplicitObject) (f : FunctionDecl) : Nat :=
  if mode = .firstArgument ∧ f.hasImplicitObject then 1 else 0

/-- The type of the object that a function takes from a call. -/
def objectOf? (mode : ImplicitObject) (f : FunctionDecl) (arguments : List Argument) :
    Option DataType :=
  if f.hasImplicitObject then mode.type? arguments else .none

/-- An object is missing only where the arguments do not cover it. -/
theorem splitObject_eq (f : FunctionDecl) (mode : ImplicitObject) (arguments : List Argument) :
    splitObject f mode arguments =
      if offset mode f ≤ arguments.length then
        .ok (objectOf? mode f arguments, offset mode f, arguments.drop (offset mode f))
      else .error (.incorrectParameterCount (f.minArgs + 1) (f.maxArgs + 1) 0) := by
  unfold splitObject
  by_cases member : f.hasImplicitObject
  · cases mode with
    | none | provided t => simp [objectOf?, offset, member, ImplicitObject.type?]
    | firstArgument =>
      cases arguments <;> simp [objectOf?, offset, member, ImplicitObject.type?]
  · simp [objectOf?, offset, member]

theorem bindObject_eq_ok {r : Registry} {f : FunctionDecl} {object : Option DataType}
    {binding : Option StandardConversion} (h : bindObject r f object = .ok binding) :
    binding = object.map (fun t => StandardConversion.compute r t f.objectType) ∧
      ∀ b, binding = some b → b.isReferenceBinding := by
  cases object with
  | none =>
    cases h
    simp
  | some t =>
    simp only [bindObject] at h
    split at h
    · rename_i direct
      cases h
      refine ⟨rfl, ?_⟩
      rintro b ⟨⟩
      exact direct
    · cases h

/-! ## The parameters -/

/-- Parameters are initialized from the arguments at the same place, and all of them succeed. -/
theorem bindArguments_eq_ok {r : Registry} {index : Nat} {params : List Param}
    {arguments : List Argument} {inits : List Initialization}
    (h : bindArguments r index params arguments = .ok inits) :
    inits = List.zipWith (fun p a => a.into r p.dataType) params arguments ∧
      ∀ init ∈ inits, init.failure? = none := by
  induction params generalizing index arguments inits with
  | nil =>
    cases h
    simp
  | cons param params ih =>
    cases arguments with
    | nil =>
      cases h
      simp
    | cons argument arguments =>
      simp only [bindArguments] at h
      split at h
      · cases h
      · rename_i succeeded
        -- The first parameter is initialized; the others follow by induction.
        cases others : bindArguments r (index + 1) params arguments with
        | error e =>
          rw [others] at h
          cases h
        | ok rest =>
          rw [others] at h
          cases h
          obtain ⟨rfl, successful⟩ := ih others
          refine ⟨rfl, ?_⟩
          simpa [succeeded] using successful

/-! ## The candidate -/

/-- The steps of an evaluation, each of which may end it. -/
theorem evaluate_eq (r : Registry) (mode : ImplicitObject) (f : FunctionDecl)
    (arguments : List Argument) :
    evaluate r mode f arguments =
      let provided := arguments.length - offset mode f
      if ¬offset mode f ≤ arguments.length then
        .error (.incorrectParameterCount (f.minArgs + 1) (f.maxArgs + 1) 0)
      else if provided < f.minArgs || f.maxArgs < provided then
        .error (.incorrectParameterCount (f.minArgs + offset mode f) (f.maxArgs + offset mode f)
          arguments.length)
      else
        match bindObject r f (objectOf? mode f arguments) with
        | .error viability => .error viability
        | .ok object =>
          (bindArguments r (offset mode f) f.params (arguments.drop (offset mode f))).map
            fun initializations =>
              { function := f.hash, object, leadingObject := offset mode f == 1,
                initializations } := by
  unfold evaluate
  rw [splitObject_eq]
  by_cases covered : offset mode f ≤ arguments.length
  · simp only [covered, not_true, if_true, if_false, bind, Except.bind, List.length_drop]
    split
    · rfl
    · cases bindObject r f (objectOf? mode f arguments) with
      | error viability => rfl
      | ok object =>
        cases bindArguments r (offset mode f) f.params (arguments.drop (offset mode f)) <;> rfl
  · simp only [covered, not_false_eq_true, if_true, if_false]
    rfl

/-- What a viable candidate holds. -/
structure Fits (r : Registry) (mode : ImplicitObject) (f : FunctionDecl)
    (arguments : List Argument) (c : Candidate) : Prop where
  function : c.function = f.hash
  leading : c.leadingObject = (offset mode f == 1)
  object : c.object =
    (objectOf? mode f arguments).map fun t => StandardConversion.compute r t f.objectType
  bound : ∀ binding, c.object = some binding → binding.isReferenceBinding
  covered : offset mode f ≤ arguments.length
  enough : f.minArgs ≤ arguments.length - offset mode f
  notMore : arguments.length - offset mode f ≤ f.params.length
  initializations : c.initializations =
    List.zipWith (fun p a => a.into r p.dataType) f.params (arguments.drop (offset mode f))
  successful : ∀ init ∈ c.initializations, init.failure? = none

theorem fits_of_evaluate {r : Registry} {mode : ImplicitObject} {f : FunctionDecl}
    {arguments : List Argument} {c : Candidate} (h : evaluate r mode f arguments = .ok c) :
    Fits r mode f arguments c := by
  simp only [evaluate_eq] at h
  split at h
  · cases h
  rename_i covered
  split at h
  · cases h
  rename_i count
  simp only [Bool.or_eq_true, decide_eq_true_eq, not_or, Nat.not_lt] at covered count
  cases object : bindObject r f (objectOf? mode f arguments) with
  | error viability =>
    rw [object] at h
    cases h
  | ok binding =>
    cases inits : bindArguments r (offset mode f) f.params (arguments.drop (offset mode f)) with
    | error viability =>
      rw [object, inits] at h
      cases h
    | ok initializations =>
      rw [object, inits] at h
      cases h
      obtain ⟨rfl, bound⟩ := bindObject_eq_ok object
      obtain ⟨rfl, successful⟩ := bindArguments_eq_ok inits
      exact ⟨rfl, rfl, rfl, bound, Decidable.not_not.mp covered, count.1, count.2, rfl, successful⟩

namespace Fits

variable {r : Registry} {mode : ImplicitObject} {f : FunctionDecl} {arguments : List Argument}
  {c : Candidate}

/-- One initialization for each argument behind the object. -/
theorem length_initializations (fits : Fits r mode f arguments c) :
    c.initializations.length + offset mode f = arguments.length := by
  have covered := fits.covered
  have notMore := fits.notMore
  rw [fits.initializations, List.length_zipWith, List.length_drop]
  omega

/-- The initialization at a place is that of the parameter there from the argument there, counted
behind the object. -/
theorem initialization (fits : Fits r mode f arguments c) {i : Nat} {init : Initialization}
    (found : c.initializations[i]? = some init) :
    ∃ param argument, f.params[i]? = some param ∧
      arguments[i + offset mode f]? = some argument ∧ init = argument.into r param.dataType ∧
      init.failure? = none := by
  have succeeded := fits.successful init (List.mem_of_getElem? found)
  rw [fits.initializations, List.getElem?_zipWith_eq_some] at found
  obtain ⟨param, argument, hparam, hargument, rfl⟩ := found
  rw [List.getElem?_drop, Nat.add_comm] at hargument
  exact ⟨param, argument, hparam, hargument, rfl, succeeded⟩

end Fits

end Candidate

namespace Resolution

variable {r : Registry} {mode : ImplicitObject} {arguments : Arguments}

theorem evaluate_eq_ok {hash : TypeHash} {c : Candidate}
    (h : evaluate r mode arguments hash = .ok c) :
    ∃ f, r.function? hash = some f ∧ Candidate.Fits r mode f arguments.toList c := by
  unfold evaluate at h
  cases found : r.function? hash with
  | none =>
    rw [found] at h
    cases h
  | some f =>
    rw [found] at h
    exact ⟨f, rfl, Candidate.fits_of_evaluate h⟩

theorem mem_viable {candidates : List TypeHash} {c : Candidate} :
    c ∈ viable r mode candidates arguments ↔
      ∃ hash ∈ candidates, evaluate r mode arguments hash = .ok c := by
  simp only [viable, List.mem_filterMap]
  refine exists_congr fun hash => and_congr_right fun _ => ?_
  cases evaluate r mode arguments hash <;> simp [Except.toOption]

end Resolution

end ScriptSemantics
