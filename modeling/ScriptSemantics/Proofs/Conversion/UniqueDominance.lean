import Mathlib.Data.Option.Basic
import ScriptSemantics.Proofs.Conversion.ConstReferences
import ScriptSemantics.Proofs.Conversion.Selection

/-!
# Unique Dominance among User-Defined Conversions

Which functions compete for a user-defined conversion is said without the search for them: the
constructors of the destination class that convert the source, in declaration order, and then the
casts that do, along the base chain of the source (`convertingFunctions`).

A candidate wins by its place in the list. It stands at a best place if it beats the candidates at
all other places, equal ones included, so a conversion that is listed twice never wins. Two
candidates do not beat each other, hence there is one best place at most.

The main statement is `findUserDefined_by_dominance`.
-/

namespace ScriptSemantics

namespace Conversion

variable {r : Registry} {source dest : DataType} {policy : ConversionPolicy} {c d : Conversion}

/-! ## Functions that compete -/

/-- A constructor that converts the source: one argument is enough for it, and the source converts
to its first parameter. Copy constructors convert nothing. -/
def ConvertsBy (r : Registry) (source dest : DataType) (ctor : FunctionDecl) : Prop :=
  ctor.minArgs ≤ 1 ∧
    ∃ param ∈ ctor.params.head?, param.dataType.base ≠ .simple dest.typeHash ∧
      (StandardConversion.compute r source param.dataType).isConvertible

/-- A cast of the class `owner` that converts the source: the source serves as its object, and its
result converts to the destination. For a mutable reference the result has to be a reference. -/
def CastsBy (r : Registry) (source dest : DataType) (owner : TypeHash) (cast : FunctionDecl) :
    Prop :=
  (dest.isMutableRef → cast.returnType.isReference) ∧
    (StandardConversion.compute r source
      ⟨owner, { isConst := cast.isConst, isReference := true }⟩).isConvertible ∧
    (StandardConversion.compute r cast.returnType dest).isConvertible

instance : DecidablePred (ConvertsBy r source dest) := fun ctor =>
  inferInstanceAs (Decidable (_ ∧ ∃ param ∈ ctor.params.head?, _))

instance (owner : TypeHash) : DecidablePred (CastsBy r source dest owner) := fun _ =>
  inferInstanceAs (Decidable (_ ∧ _ ∧ _))

/-- The functions that compete for a conversion, in the order of their discovery. The policy says
which functions may be used at all. -/
def convertingFunctions (r : Registry) (source dest : DataType) (policy : ConversionPolicy) :
    List FunctionDecl :=
  (if r.isClass dest ∧ ¬dest.isMutableRef then
    ((r.constructors dest.typeHash).filter policy.admits).filter (ConvertsBy r source dest)
  else []) ++
  (if r.isClass source then
    (r.baseChain source.typeHash).flatMap fun owner =>
      ((r.casts owner).filter policy.admits).filter (CastsBy r source dest owner)
  else [])

/-- A search that succeeds under a condition succeeds for the members that satisfy it. -/
theorem map_filterMap_of_guard {α β γ : Type} {f : α → Option β} {g : β → γ} {h : α → γ}
    {p : α → Prop} [DecidablePred p]
    (guarded : ∀ a, (f a).map g = if p a then some (h a) else none) (as : List α) :
    (as.filterMap f).map g = (as.filter p).map h := by
  rw [List.map_filterMap]
  induction as with
  | nil => rfl
  | cons a as ih =>
    by_cases holds : p a
    · rw [List.filterMap_cons_some (by rw [guarded, if_pos holds]), ih,
        List.filter_cons_of_pos (by simpa using holds), List.map_cons]
    · rw [List.filterMap_cons_none (by rw [guarded, if_neg holds]), ih,
        List.filter_cons_of_neg (by simpa using holds)]

/-- The search through a constructor succeeds exactly if the constructor converts the source. -/
theorem function?_throughConstructor? (ctor : FunctionDecl) :
    (throughConstructor? r source dest ctor).map function? =
      if ConvertsBy r source dest ctor then some (some ctor.hash) else none := by
  cases params : ctor.params with
  | nil => simp [ConvertsBy, throughConstructor?, params]
  | cons param rest =>
    have condition : ConvertsBy r source dest ctor ↔
        (decide (ctor.minArgs ≤ 1) && param.dataType.base != .simple dest.typeHash &&
          (StandardConversion.compute r source param.dataType).isConvertible) := by
      simp [ConvertsBy, params, and_assoc]
    simp only [throughConstructor?, params, condition]
    split <;> rfl

/-- The search through a cast succeeds exactly if the cast converts the source. -/
theorem function?_throughCast? (owner : TypeHash) (cast : FunctionDecl) :
    (throughCast? r source dest owner cast).map function? =
      if CastsBy r source dest owner cast then some (some cast.hash) else none := by
  have condition : CastsBy r source dest owner cast ↔
      ¬(dest.isMutableRef && !cast.returnType.isReference) ∧
        ((StandardConversion.compute r source
          ⟨owner, { isConst := cast.isConst, isReference := true }⟩).isConvertible &&
          (StandardConversion.compute r cast.returnType dest).isConvertible) := by
    simp [CastsBy]
  simp only [throughCast?, condition]
  split
  · rename_i temporary
    rw [if_neg fun both => both.1 temporary]
    rfl
  · rename_i refers
    split
    · rename_i possible
      rw [if_pos ⟨refers, possible⟩]
      rfl
    · rename_i impossible
      rw [if_neg fun both => impossible both.2]
      rfl

/-- The candidates are the conversions through the competing functions, one for each. -/
theorem functions_candidates :
    (candidates r source dest policy).map function? =
      (convertingFunctions r source dest policy).map fun f => some f.hash := by
  rw [candidates, convertingFunctions, List.map_append, List.map_append]
  congr 1
  · by_cases constructs : r.isClass dest ∧ ¬dest.isMutableRef
    · rw [constructorCandidates, if_pos constructs, if_pos (by simpa using constructs),
        map_filterMap_of_guard function?_throughConstructor?]
    · rw [constructorCandidates, if_neg constructs, if_neg (by simpa using constructs)]
      rfl
  · by_cases isClass : r.isClass source
    · rw [castCandidates, if_pos isClass, if_pos isClass, List.map_flatMap, List.map_flatMap]
      refine List.flatMap_congr fun owner _ => ?_
      rw [map_filterMap_of_guard (function?_throughCast? owner)]
    · rw [castCandidates, if_neg isClass, if_neg isClass]
      rfl

/-- An ambiguity names every competing function. -/
theorem filterMap_function?_candidates :
    (candidates r source dest policy).filterMap function? =
      (convertingFunctions r source dest policy).map FunctionDecl.hash := by
  have named : (candidates r source dest policy).filterMap function? =
      ((candidates r source dest policy).map function?).filterMap id := by
    rw [List.filterMap_map]
    rfl
  rw [named, functions_candidates, List.filterMap_map]
  exact congrFun List.filterMap_eq_map _

/-! ## Places in the list -/

/-- At least as good on both standard steps, and strictly better on one of them. -/
structure Beats (c d : Conversion) : Prop where
  first : c.first.compare d.first ≠ .gt
  second : c.second.compare d.second ≠ .gt
  strict : c.first.compare d.first = .lt ∨ c.second.compare d.second = .lt

theorem dominates_iff : dominates c d ↔ Beats c d := by
  simp only [dominates, Bool.and_eq_true, Bool.or_eq_true, bne_iff_ne, beq_iff_eq, and_assoc]
  constructor
  · rintro ⟨first, second, strict⟩
    exact ⟨first, second, strict⟩
  · rintro ⟨first, second, strict⟩
    exact ⟨first, second, strict⟩

theorem Beats.asymm (beats : Beats c d) : ¬Beats d c := by
  rw [← dominates_iff, not_dominates_of_dominates (dominates_iff.2 beats)]
  exact Bool.false_ne_true

/-- The candidate stands at this place and beats the candidates at all others. -/
def BestAt (found : List Conversion) (place : Nat) (c : Conversion) : Prop :=
  found[place]? = some c ∧ ∀ other d, other ≠ place → found[other]? = some d → Beats c d

/-- There is one best place at most. -/
theorem BestAt.unique {found : List Conversion} {i j : Nat} (best : BestAt found i c)
    (best' : BestAt found j d) : i = j := by
  by_contra different
  have forth := best.2 j d (Ne.symm different) best'.1
  have back := best'.2 i c different best.1
  exact forth.asymm back

theorem best_iff_exists_bestAt {found : List Conversion} :
    Best found c ↔ ∃ place, BestAt found place c := by
  constructor
  · rintro ⟨front, back, rfl, others⟩
    refine ⟨front.length, by simp, fun other d elsewhere isThere => ?_⟩
    -- What stands at another place is what is left when this place is taken out.
    have left : d ∈ (front ++ c :: back).eraseIdx front.length :=
      List.mem_eraseIdx_iff_getElem?.2 ⟨other, elsewhere, isThere⟩
    rw [List.eraseIdx_append_of_length_le (Nat.le_refl _), Nat.sub_self,
      List.eraseIdx_cons_zero] at left
    exact dominates_iff.1 (others d left)
  · rintro ⟨place, isThere, others⟩
    obtain ⟨inside, rfl⟩ := List.getElem?_eq_some_iff.1 isThere
    refine ⟨found.take place, found.drop (place + 1), ?_, fun d other => ?_⟩
    · rw [List.getElem_cons_drop, List.take_append_drop]
    · rw [← List.eraseIdx_eq_take_drop_succ] at other
      obtain ⟨elsewhere, different, isThere⟩ := List.mem_eraseIdx_iff_getElem?.1 other
      exact dominates_iff.2 (others elsewhere d different isThere)

/-- A candidate without rivals is the best. -/
theorem bestAt_singleton (c : Conversion) : BestAt [c] 0 c := by
  refine ⟨rfl, fun other d elsewhere isThere => ?_⟩
  rw [List.getElem?_singleton, if_neg elsewhere] at isThere
  cases isThere

/-! ## The search -/

theorem findUserDefined_eq_some_iff :
    findUserDefined r source dest policy = .ok (some c) ↔
      ∃ place, BestAt (candidates r source dest policy) place c := by
  rw [← best_iff_exists_bestAt, ← bestFrom?_nil_eq_some_iff]
  unfold findUserDefined
  split
  · rename_i nothing
    simp [nothing, bestFrom?]
  · split
    · rename_i best found
      simp [found]
    · rename_i found
      simp [found]

/-- Without a best candidate among some, there are two of them at least and all are named. -/
theorem findUserDefined_of_noBest (someFound : candidates r source dest policy ≠ [])
    (noBest : ¬∃ place c, BestAt (candidates r source dest policy) place c) :
    findUserDefined r source dest policy =
        .error (.ambiguous source dest
          ((candidates r source dest policy).filterMap function?)) ∧
      2 ≤ (candidates r source dest policy).length := by
  have several : 2 ≤ (candidates r source dest policy).length := by
    rcases found : candidates r source dest policy with _ | ⟨c, _ | ⟨d, rest⟩⟩
    · exact absurd found someFound
    · rw [found] at noBest
      exact absurd ⟨0, c, bestAt_singleton c⟩ noBest
    · simp
  refine ⟨?_, several⟩
  have lost : bestFrom? [] (candidates r source dest policy) = none := by
    rw [Option.eq_none_iff_forall_ne_some]
    intro c found
    obtain ⟨place, best⟩ := best_iff_exists_bestAt.1 (bestFrom?_nil_eq_some_iff.1 found)
    exact noBest ⟨place, c, best⟩
  unfold findUserDefined
  split
  · rename_i nothing
    exact absurd nothing someFound
  · simp only [lost]

/-- **Unique dominance**: the candidates are the conversions through the competing functions, in the
order of their discovery. Nothing is found exactly if there are none; a conversion is found exactly
if it stands at a best place, and there is one best place at most; in every other case the
conversion is ambiguous and all competing functions are named, two or more. -/
theorem findUserDefined_by_dominance (r : Registry) (source dest : DataType)
    (policy : ConversionPolicy) :
    (candidates r source dest policy).map function? =
        (convertingFunctions r source dest policy).map (fun f => some f.hash) ∧
      (findUserDefined r source dest policy = .ok none ↔ candidates r source dest policy = []) ∧
      (∀ c, findUserDefined r source dest policy = .ok (some c) ↔
        ∃ place, BestAt (candidates r source dest policy) place c) ∧
      (∀ i j c d, BestAt (candidates r source dest policy) i c →
        BestAt (candidates r source dest policy) j d → i = j) ∧
      (candidates r source dest policy ≠ [] →
        (¬∃ place c, BestAt (candidates r source dest policy) place c) →
        findUserDefined r source dest policy =
            .error (.ambiguous source dest
              ((convertingFunctions r source dest policy).map FunctionDecl.hash)) ∧
          2 ≤ (convertingFunctions r source dest policy).length) := by
  refine ⟨functions_candidates, findUserDefined_eq_none_iff, fun c => findUserDefined_eq_some_iff,
    fun i j c d => BestAt.unique, fun someFound noBest => ?_⟩
  obtain ⟨ambiguous, several⟩ := findUserDefined_of_noBest someFound noBest
  have one_each : (candidates r source dest policy).length =
      (convertingFunctions r source dest policy).length := by
    simpa using congrArg List.length (@functions_candidates r source dest policy)
  rw [filterMap_function?_candidates] at ambiguous
  exact ⟨ambiguous, one_each ▸ several⟩

/-- A token is cast to `double`, and a coin, which is a token, to `int` and to `float` as well. -/
def coins : Registry :=
  let types : Table TypeHash TypeDecl := { entries := [
    (FundamentalKind.int.hash, .fundamental .int),
    (FundamentalKind.float.hash, .fundamental .float),
    (FundamentalKind.double.hash, .fundamental .double),
    (⟨1⟩, .classType
      { hash := ⟨1⟩, name := "Token", qualifiedName := "Token", casts := [⟨11⟩] }),
    (⟨2⟩, .classType
      { hash := ⟨2⟩, name := "Coin", qualifiedName := "Coin", base := some ⟨1⟩,
        casts := [⟨12⟩, ⟨13⟩] })] }
  let cast (hash owner : TypeHash) (kind : FundamentalKind) : FunctionDecl :=
    { hash, name := "$cast", kind := .cast, owner := some owner, returnType := .ofKind kind,
      traits := { isConst := true } }
  (({ types } : Registry).addFunction (cast ⟨11⟩ ⟨1⟩ .double)).addFunction
    (cast ⟨12⟩ ⟨2⟩ .int) |>.addFunction (cast ⟨13⟩ ⟨2⟩ .float)

/-- For a `float` the last cast of the coin is the best. For a `double` the cast of the token has
the better result and those of the coin the better object, so that none of them is. -/
theorem findUserDefined_by_dominance_coins :
    (∃ c place, findUserDefined coins (.simple ⟨2⟩) (.ofKind .float) .implicitOnly = .ok (some c) ∧
        c.function? = some ⟨13⟩ ∧
        BestAt (candidates coins (.simple ⟨2⟩) (.ofKind .float) .implicitOnly) place c) ∧
      findUserDefined coins (.simple ⟨2⟩) (.ofKind .double) .implicitOnly =
        .error (.ambiguous (.simple ⟨2⟩) (.ofKind .double) [⟨12⟩, ⟨13⟩, ⟨11⟩]) ∧
      ¬∃ place c,
        BestAt (candidates coins (.simple ⟨2⟩) (.ofKind .double) .implicitOnly) place c := by
  have best : findUserDefined coins (.simple ⟨2⟩) (.ofKind .float) .implicitOnly =
      .ok (some (.userDefined (.step { addsConst := true, binding := .reference }) ⟨13⟩ .exact
        (.simple ⟨2⟩) (.ofKind .float))) := rfl
  have ambiguous : findUserDefined coins (.simple ⟨2⟩) (.ofKind .double) .implicitOnly =
      .error (.ambiguous (.simple ⟨2⟩) (.ofKind .double) [⟨12⟩, ⟨13⟩, ⟨11⟩]) := rfl
  obtain ⟨place, isBest⟩ := ((findUserDefined_by_dominance coins _ _ _).2.2.1 _).1 best
  refine ⟨⟨_, place, best, rfl, isBest⟩, ambiguous, ?_⟩
  rintro ⟨place, c, isBest⟩
  have found := ((findUserDefined_by_dominance coins _ _ _).2.2.1 c).2 ⟨place, isBest⟩
  cases ambiguous.symm.trans found

end Conversion

end ScriptSemantics
