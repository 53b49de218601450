import Mathlib.Data.List.TakeWhile
import ScriptSemantics.Proofs.Overload.Selection

/-!
# Matches Are Sound

A call that succeeds pairs every argument with the parameter it is meant for. The object of a member
stands apart or in front of the arguments, trailing parameters may be left to their defaults, and
static members take no object at all: whatever the combination, the match has one valid
initialization for each argument behind the object, and every parameter without one has a default.

Arguments are taken from a list here, which cannot run over. `Candidate.evaluateByIndex` finds them
by position, with a subtraction and look-ups that may be refused, and they never are.
-/

namespace ScriptSemantics

/-- Parameters that may be left out have a default. -/
theorem FunctionDecl.hasDefault_of_minArgs_le {f : FunctionDecl} {i : Nat} {param : Param}
    (found : f.params[i]? = some param) (beyond : f.minArgs ≤ i) : param.hasDefault := by
  -- The parameters are those that must be given, followed by the trailing run of defaults.
  have split : f.params = (f.params.reverse.dropWhile Param.hasDefault).reverse ++
      (f.params.reverse.takeWhile Param.hasDefault).reverse := by
    rw [← List.reverse_append, List.takeWhile_append_dropWhile, List.reverse_reverse]
  rw [split, List.getElem?_append_right (by rwa [List.length_reverse])] at found
  exact List.mem_takeWhile_imp (List.mem_reverse.mp (List.mem_of_getElem? found))

namespace Candidate

/-! ## Evaluation by position -/

/-- Subtraction that is refused where the result would be negative. -/
def checkedSub (a b : Nat) : Option Nat := if b ≤ a then some (a - b) else none

/-- Initialize parameters from the arguments at their positions behind `offset`, counting from `i`;
refused if there is no such position. -/
def bindByIndex (r : Registry) (arguments : List Argument) (offset : Nat) :
    (i : Nat) → List Param → Option (Except Viability (List Initialization))
  | _, [] => some (.ok [])
  | i, param :: params => do
    let argument ← arguments[i + offset]?
    let init := argument.into r param.dataType
    match init.failure? with
    | some failure => some (.error (.couldNotConvertArgument (i + offset) failure))
    | none => return (init :: ·) <$> (← bindByIndex r arguments offset (i + 1) params)

/-- Match a function against a call by positions; refused if a position or a difference is out of
range. -/
def evaluateByIndex (r : Registry) (mode : ImplicitObject) (f : FunctionDecl)
    (arguments : List Argument) : Option (Except Viability Candidate) :=
  if mode = .firstArgument ∧ f.hasImplicitObject ∧ arguments[0]? = none then
    some (.error (.incorrectParameterCount (f.minArgs + 1) (f.maxArgs + 1) 0))
  else do
    let provided ← checkedSub arguments.length (offset mode f)
    if provided < f.minArgs || f.maxArgs < provided then
      some (.error (.incorrectParameterCount (f.minArgs + offset mode f)
        (f.maxArgs + offset mode f) arguments.length))
    else
      match bindObject r f (objectOf? mode f arguments) with
      | .error viability => some (.error viability)
      | .ok object =>
        let initializations ← bindByIndex r arguments (offset mode f) 0 (f.params.take provided)
        return initializations.map fun initializations =>
          { function := f.hash, object, leadingObject := offset mode f == 1, initializations }

/-- As long as parameters are taken for the arguments that are left, every position exists. -/
theorem bindByIndex_eq (r : Registry) (arguments : List Argument) (offset i : Nat)
    (params : List Param) :
    bindByIndex r arguments offset i (params.take (arguments.length - (i + offset))) =
      some (bindArguments r (i + offset) params (arguments.drop (i + offset))) := by
  induction params generalizing i with
  | nil => simp [bindByIndex, bindArguments]
  | cons param params ih =>
    by_cases inside : i + offset < arguments.length
    · -- One more argument is left than for the parameters that follow.
      have left : arguments.length - (i + offset) = arguments.length - (i + offset + 1) + 1 := by
        omega
      have others := ih (i + 1)
      rw [Nat.add_right_comm i 1 offset] at others
      rw [left, List.take_succ_cons, bindByIndex, List.getElem?_eq_getElem inside,
        List.drop_eq_getElem_cons inside, bindArguments]
      simp only [Option.bind_eq_bind, Option.bind_some]
      cases (arguments[i + offset].into r param.dataType).failure? with
      | some failure => rfl
      | none =>
        simp only [others]
        cases bindArguments r (i + offset + 1) params (arguments.drop (i + offset + 1)) <;> rfl
    · -- No argument is left, so no parameter is taken.
      rw [Nat.not_lt] at inside
      simp [Nat.sub_eq_zero_of_le inside, List.drop_eq_nil_of_le inside, bindByIndex,
        bindArguments]

/-- An object is missing exactly if it should be the first argument and there is none. -/
theorem offset_le_length_iff {mode : ImplicitObject} {f : FunctionDecl}
    {arguments : List Argument} :
    offset mode f ≤ arguments.length ↔
      ¬(mode = .firstArgument ∧ f.hasImplicitObject ∧ arguments[0]? = none) := by
  unfold offset
  split
  · rename_i leading
    simp [leading, List.length_pos_iff, Nat.one_le_iff_ne_zero]
  · rename_i behind
    simp only [Nat.zero_le, true_iff]
    exact fun missing => behind ⟨missing.1, missing.2.1⟩

theorem evaluateByIndex_eq (r : Registry) (mode : ImplicitObject) (f : FunctionDecl)
    (arguments : List Argument) :
    evaluateByIndex r mode f arguments = some (evaluate r mode f arguments) := by
  rw [evaluateByIndex, evaluate_eq]
  by_cases covered : offset mode f ≤ arguments.length
  · have difference : checkedSub arguments.length (offset mode f) =
        some (arguments.length - offset mode f) := if_pos covered
    rw [if_neg (offset_le_length_iff.mp covered), if_neg (not_not.mpr covered), difference]
    simp only [Option.bind_eq_bind, Option.bind_some]
    split
    · rfl
    · cases bindObject r f (objectOf? mode f arguments) with
      | error viability => rfl
      | ok object =>
        have inits := bindByIndex_eq r arguments (offset mode f) 0 f.params
        rw [Nat.zero_add] at inits
        simp only [inits]
        rfl
  · rw [if_pos (not_not.mp (mt offset_le_length_iff.mpr covered)), if_pos covered]

end Candidate

/-! ## Soundness -/

/-- A match calls a function with the arguments of a call as the function declares it. -/
structure OverloadMatch.Sound (r : Registry) (mode : ImplicitObject) (arguments : List Argument)
    (f : FunctionDecl) (found : OverloadMatch) : Prop where
  registered : r.function? found.function = some f
  count : found.initializations.length + Candidate.offset mode f = arguments.length
  initialized : ∀ i init, found.initializations[i]? = some init →
    ∃ param argument, f.params[i]? = some param ∧
      arguments[i + Candidate.offset mode f]? = some argument ∧
      init = argument.into r param.dataType ∧ init.isValid
  defaulted : ∀ i param, f.params[i]? = some param → found.initializations.length ≤ i →
    param.hasDefault
  /-- The object is bound directly to a reference to the owner, or to a base class of its own, and
  never loses const. -/
  bound : mode ≠ .none → f.hasImplicitObject →
    ∃ t owner binding, mode.type? arguments = some t ∧ f.owner = some owner ∧
      found.object = some binding ∧
      binding = StandardConversion.compute r t
        ⟨owner, { isConst := f.isConst, isReference := true }⟩ ∧
      binding.isReferenceBinding ∧
      (t.base = .simple owner ∨ ∃ depth, r.inheritanceDepth? t.typeHash owner = some depth) ∧
      (t.isConst → f.isConst)
  unbound : mode = .none ∨ ¬f.hasImplicitObject → found.object = none

namespace Candidate.Fits

variable {r : Registry} {mode : ImplicitObject} {f : FunctionDecl} {arguments : List Argument}
  {c : Candidate}

/-- A call on an object has one, unless the arguments do not cover it. -/
theorem exists_type? (fits : Fits r mode f arguments c) (onObject : mode ≠ .none)
    (member : f.hasImplicitObject) : ∃ t, mode.type? arguments = some t := by
  cases mode with
  | none => exact absurd rfl onObject
  | provided t => exact ⟨t, rfl⟩
  | firstArgument =>
    have covered := fits.covered
    rw [offset, if_pos ⟨rfl, member⟩] at covered
    cases arguments with
    | nil => cases covered
    | cons argument rest => exact ⟨argument.dataType, rfl⟩

theorem sound (fits : Fits r mode f arguments c) (noNull : r.type? .null = none)
    (registered : r.function? c.function = some f) :
    (Resolution.matchOf c).Sound r mode arguments f where
  registered := registered
  count := fits.length_initializations
  initialized i init found := by
    obtain ⟨param, argument, hparam, hargument, rfl, succeeded⟩ := fits.initialization found
    exact ⟨param, argument, hparam, hargument, rfl, Argument.isValid_into noNull succeeded⟩
  defaulted i param found beyond := by
    have count := fits.length_initializations
    have enough := fits.enough
    have beyond : c.initializations.length ≤ i := beyond
    exact FunctionDecl.hasDefault_of_minArgs_le found (by omega)
  bound onObject member := by
    obtain ⟨t, objectType⟩ := fits.exists_type? onObject member
    obtain ⟨owner, hasOwner⟩ : ∃ owner, f.owner = some owner := by
      simp only [FunctionDecl.hasImplicitObject, Bool.and_eq_true] at member
      exact Option.isSome_iff_exists.mp member.1.1
    -- What was bound, and what direct binding says about the two types.
    have object := fits.object
    rw [objectOf?, if_pos member, objectType, Option.map_some] at object
    have binds := fits.bound _ object
    have direct := StandardConversion.direct_of_isReferenceBinding binds
    rw [FunctionDecl.objectType, hasOwner, Option.getD_some] at object binds direct
    refine ⟨t, owner, _, objectType, hasOwner, object, rfl, binds, ?_, direct.const⟩
    exact direct.related.imp_left fun same => eq_of_beq same
  unbound free := by
    have object : (Resolution.matchOf c).object = _ := fits.object
    rcases free with rfl | notMember
    · simpa [objectOf?, ImplicitObject.type?] using object
    · simpa [objectOf?, notMember] using object

end Candidate.Fits

namespace Resolution

variable {r : Registry}

/-- **Matches are sound**: a call that succeeds has found a candidate, initializes its parameters
from the arguments at their places, leaves out defaults only, and binds the object directly. All
positions that the evaluation of a candidate looks at exist. -/
theorem resolve_sound (noNull : r.type? .null = none) (functions : r.SoundFunctions)
    (mode : ImplicitObject) (candidates : List TypeHash) (arguments : Arguments) :
    (∀ found, (resolve r mode candidates arguments).outcome = .succeeded found →
      found.function ∈ candidates ∧ ∃ f, found.Sound r mode arguments.toList f) ∧
      ∀ f, Candidate.evaluateByIndex r mode f arguments.toList =
        some (Candidate.evaluate r mode f arguments.toList) := by
  refine ⟨fun found succeeded => ?_, fun f => Candidate.evaluateByIndex_eq ..⟩
  rw [resolve, outcomeOf_eq_succeeded_iff] at succeeded
  obtain ⟨c, won, rfl⟩ := succeeded
  obtain ⟨i, ⟨hash, place, isViable⟩, -⟩ := exists_bestAt_iff.mpr won
  obtain ⟨f, registered, fits⟩ := evaluate_eq_ok isViable
  -- The candidate carries the identity that it is listed and registered under.
  have same : c.function = hash := fits.function.trans (functions hash f registered)
  rw [← same] at place registered
  exact ⟨List.mem_of_getElem? place, f, fits.sound noNull registered⟩

/-- Two shapes, one derived from the other, that meet: on const shapes with an optional mark, and on
mutable ones without. -/
def drawing : Registry :=
  let shape (hash : TypeHash) (name : String) (base : Option TypeHash) : TypeHash × TypeDecl :=
    (hash, .classType { hash, name, qualifiedName := name, base })
  let types : Table TypeHash TypeDecl := { entries := [
    (FundamentalKind.char.hash, .fundamental .char),
    shape ⟨1⟩ "Shape" none,
    shape ⟨2⟩ "Circle" (some ⟨1⟩)] }
  let other : Param := { dataType := .constRef ⟨1⟩ }
  let mark : Param := { dataType := .ofKind .char, hasDefault := true }
  let meet (hash : TypeHash) (params : List Param) (traits : FunctionTraits) : FunctionDecl :=
    { hash, name := "meet", owner := some ⟨1⟩, params, traits }
  (({ types } : Registry).addFunction (meet ⟨21⟩ [other, mark] { isConst := true })).addFunction
    (meet ⟨22⟩ [other] {})

theorem drawing_soundFunctions : drawing.SoundFunctions :=
  ((Registry.SoundFunctions.ofTypes _).addFunction _).addFunction _

/-- A const circle meets a circle: the object comes first, the mark is left to its default, and the
member for mutable shapes is out of the question. -/
theorem resolve_sound_drawing :
    drawing.type? .null = none ∧ drawing.SoundFunctions ∧
      ∃ found, (resolve drawing .firstArgument [⟨22⟩, ⟨21⟩]
        (.types [.constant ⟨2⟩, .simple ⟨2⟩])).outcome = .succeeded found ∧
        found.function = ⟨21⟩ ∧
        ∃ f, found.Sound drawing .firstArgument [.type (.constant ⟨2⟩), .type (.simple ⟨2⟩)] f := by
  have noNull : drawing.type? .null = none := by cbv
  refine ⟨noNull, drawing_soundFunctions, _, rfl, rfl, ?_⟩
  exact ((resolve_sound noNull drawing_soundFunctions .firstArgument [⟨22⟩, ⟨21⟩]
    (.types [.constant ⟨2⟩, .simple ⟨2⟩])).1 _ rfl).2

end Resolution

end ScriptSemantics
