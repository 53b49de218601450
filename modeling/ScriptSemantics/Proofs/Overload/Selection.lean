import ScriptSemantics.Proofs.Overload.Evaluation
import ScriptSemantics.Proofs.Overload.OrderIndependence
import ScriptSemantics.Proofs.Registry.Changes

/-!
# Selection Is Pareto Dominance

One candidate dominates another if it is at least as good at every position where the two are
compared and better at one of them. A call succeeds with exactly the candidate that dominates all
others.

The selection does not look for that candidate. It collects the candidates that nobody dominates,
and since dominance is not transitive, a lone one of them need not dominate the rest. The two agree
because every comparison turns round when its sides do, so that dominance is asymmetric:
a candidate that dominates all others is the only unbeaten one and has no rivals, and an unbeaten
candidate without rivals dominates all others.

Candidates are listed by identity, and a tie names functions. That both mean the same functions is
`Registry.SoundFunctions`, which every operation on a registry keeps.
-/

namespace ScriptSemantics

/-! ## Dominance -/

namespace Candidate

instance : Std.OrientedCmp Slot.compare where
  eq_swap {x y} := by
    cases x with
    | object a =>
      cases y with
      | object b => exact @Std.OrientedCmp.eq_swap _ StandardConversion.compare _ a b
      | argument b => exact @Std.OrientedCmp.eq_swap Nat Ord.compare _ _ _
    | argument a =>
      cases y with
      | object b => exact @Std.OrientedCmp.eq_swap Nat Ord.compare _ _ _
      | argument b => exact @Std.OrientedCmp.eq_swap _ Initialization.compare _ a b

/-- How two candidates compare where they are compared: on the object that the call provides, if
both use it, and at each argument position that both have. -/
inductive Compared : (mode : ImplicitObject) → (a b : Candidate) → Ordering → Prop
  | object {a b : Candidate} {t : DataType} {x y : StandardConversion} (hx : a.object = some x)
      (hy : b.object = some y) : Compared (.provided t) a b (x.compare y)
  | position {mode : ImplicitObject} {a b : Candidate} {i : Nat} {x y : Slot}
      (hx : a.slots[i]? = some x) (hy : b.slots[i]? = some y) :
      Compared mode a b (x.compare y)

/-- At least as good wherever the two are compared, and better somewhere. -/
structure Dominates (mode : ImplicitObject) (a b : Candidate) : Prop where
  notWorse : ∀ order, Compared mode a b order → order ≠ .gt
  better : Compared mode a b .lt

variable {mode : ImplicitObject} {a b : Candidate}

theorem mem_comparisons {order : Ordering} :
    order ∈ comparisons mode a b ↔ Compared mode a b order := by
  have atPositions : order ∈ List.zipWith Slot.compare a.slots b.slots ↔
      ∃ (i : Nat) (x y : Slot), a.slots[i]? = some x ∧ b.slots[i]? = some y ∧
        x.compare y = order := by
    simp only [List.mem_iff_getElem?, List.getElem?_zipWith_eq_some]
  unfold comparisons
  rw [List.mem_append, atPositions]
  constructor
  · rintro (onObject | ⟨i, x, y, hx, hy, rfl⟩)
    · split at onObject
      · rename_i hx hy
        rw [List.mem_singleton] at onObject
        exact onObject ▸ .object hx hy
      · cases onObject
    · exact .position hx hy
  · rintro (⟨hx, hy⟩ | ⟨hx, hy⟩)
    · simp [hx, hy]
    · exact .inr ⟨_, _, _, hx, hy, rfl⟩

theorem dominates_iff : dominates mode a b = true ↔ Dominates mode a b := by
  simp only [dominates, Bool.and_eq_true, List.all_eq_true, List.any_eq_true, bne_iff_ne, ne_eq,
    beq_iff_eq, exists_eq_right, mem_comparisons]
  constructor
  · rintro ⟨notWorse, better⟩
    exact ⟨notWorse, better⟩
  · intro h
    exact ⟨h.notWorse, h.better⟩

/-- Comparisons turn round when their sides do. -/
theorem Compared.swap {order : Ordering} (h : Compared mode a b order) :
    Compared mode b a order.swap := by
  cases h with
  | object hx hy =>
    rw [← @Std.OrientedCmp.eq_swap _ StandardConversion.compare]
    exact .object hy hx
  | position hx hy =>
    rw [← @Std.OrientedCmp.eq_swap _ Slot.compare]
    exact .position hy hx

theorem Dominates.asymm (h : Dominates mode a b) : ¬Dominates mode b a :=
  fun back => back.notWorse _ h.better.swap rfl

theorem not_dominates_self (mode : ImplicitObject) (c : Candidate) :
    dominates mode c c = false := by
  rw [Bool.eq_false_iff, ne_eq, dominates_iff]
  exact fun h => h.asymm h

theorem not_dominates_of_dominates (h : dominates mode a b) : dominates mode b a = false := by
  rw [Bool.eq_false_iff, ne_eq, dominates_iff]
  exact (dominates_iff.mp h).asymm

theorem unbeaten_sublist (mode : ImplicitObject) (viable : List Candidate) :
    (unbeaten mode viable).Sublist viable := List.filter_sublist

theorem mem_unbeaten {viable : List Candidate} {c : Candidate} :
    c ∈ unbeaten mode viable ↔ c ∈ viable ∧ ∀ d ∈ viable, ¬Dominates mode d c := by
  simp [unbeaten, ← dominates_iff]

end Candidate

/-! ## Selection -/

namespace Selection

open Candidate

variable {mode : ImplicitObject} {viable front back : List Candidate} {best : Candidate}

theorem rivals_sublist (mode : ImplicitObject) (best : Candidate) (viable : List Candidate) :
    (rivals mode best viable).Sublist viable := List.filter_sublist

/-- Nobody dominates itself, so a candidate is among its rivals. -/
theorem mem_rivals_self (mode : ImplicitObject) (h : best ∈ viable) :
    best ∈ rivals mode best viable := by
  simp [rivals, h, not_dominates_self]

/-- The rivals of a candidate are itself and whom it fails to dominate on either side. -/
theorem rivals_split :
    rivals mode best (front ++ best :: back) =
      rivals mode best front ++ best :: rivals mode best back := by
  simp [rivals, not_dominates_self]

theorem rivals_eq_nil {others : List Candidate} :
    rivals mode best others = [] ↔ ∀ d ∈ others, Dominates mode best d := by
  simp [rivals, ← dominates_iff]

/-- A candidate that dominates all others is the only unbeaten one. -/
theorem unbeaten_of_best (h : ∀ d ∈ front ++ back, Dominates mode best d) :
    unbeaten mode (front ++ best :: back) = [best] := by
  -- All others are beaten by the best one.
  have beaten : ∀ d ∈ front ++ back,
      ¬(!(front ++ best :: back).any fun e => dominates mode e d) = true := by
    intro d hd
    rw [Bool.not_eq_true, Bool.not_eq_false', List.any_eq_true]
    exact ⟨best, by simp, dominates_iff.mpr (h d hd)⟩
  -- Whoever beat the best one in turn would dominate and be dominated.
  have ahead : (!(front ++ best :: back).any fun e => dominates mode e best) = true := by
    rw [Bool.not_eq_true', List.any_eq_false]
    intro d hd
    rw [Bool.not_eq_true]
    have place : d = best ∨ d ∈ front ∨ d ∈ back := by simpa [or_left_comm] using hd
    rcases place with rfl | other
    · exact not_dominates_self mode d
    · exact not_dominates_of_dominates (dominates_iff.mpr (h d (List.mem_append.mpr other)))
  unfold unbeaten
  rw [List.filter_append, List.filter_cons, if_pos ahead,
    List.filter_eq_nil_iff.mpr fun d hd => beaten d (List.mem_append_left _ hd),
    List.filter_eq_nil_iff.mpr fun d hd => beaten d (List.mem_append_right _ hd)]
  rfl

/-- The three ways in which a selection ends. -/
theorem ofViable_cases (mode : ImplicitObject) (viable : List Candidate) :
    (viable = [] ∧ ofViable mode viable = .empty) ∨
      (∃ best ∈ viable, (rivals mode best viable).length = 1 ∧
        ofViable mode viable = .winner best) ∨
      ∃ tied, ofViable mode viable = .tied tied ∧ 2 ≤ tied.length ∧ tied.Sublist viable := by
  match hu : unbeaten mode viable with
  | [] =>
    -- If everybody is beaten there are two at least, since nobody beats itself.
    match viable with
    | [] => exact .inl ⟨rfl, rfl⟩
    | [c] => simp [unbeaten, not_dominates_self] at hu
    | c :: d :: rest =>
      exact .inr (.inr ⟨_, ofViable_of_unbeaten_nil (by simp) hu, by simp, .refl _⟩)
  | [best] =>
    -- A lone unbeaten candidate is among its rivals, so if it ties it ties with another one.
    have present : best ∈ viable := (unbeaten_sublist mode viable).subset (hu ▸ by simp)
    by_cases lone : (rivals mode best viable).length = 1
    · exact .inr (.inl ⟨best, present, lone, ofViable_of_lone_winner hu lone⟩)
    · have some := List.length_pos_of_mem (mem_rivals_self mode present)
      exact .inr (.inr ⟨_, ofViable_of_lone_tied hu lone, by omega, rivals_sublist ..⟩)
  | first :: second :: rest =>
    have several : 2 ≤ (unbeaten mode viable).length := by simp [hu]
    exact .inr (.inr ⟨_, ofViable_of_several several, several, unbeaten_sublist ..⟩)

/-- The winner dominates all others, and whoever does is the winner. -/
theorem ofViable_eq_winner_iff :
    ofViable mode viable = .winner best ↔
      ∃ front back, viable = front ++ best :: back ∧
        ∀ d ∈ front ++ back, Dominates mode best d := by
  constructor
  · intro h
    rcases ofViable_cases mode viable with ⟨-, h'⟩ | ⟨_, present, lone, h'⟩ | ⟨_, h', -⟩ <;>
      cases h.symm.trans h'
    obtain ⟨front, back, rfl⟩ := List.append_of_mem present
    -- The candidate is its own rival, so there is no other one.
    rw [rivals_split, List.length_append, List.length_cons] at lone
    have none : rivals mode best front ++ rivals mode best back = [] :=
      List.length_eq_zero_iff.mp (by rw [List.length_append]; omega)
    rw [rivals, rivals, ← List.filter_append] at none
    exact ⟨front, back, rfl, rivals_eq_nil.mp none⟩
  · rintro ⟨front, back, rfl, dominant⟩
    refine ofViable_of_lone_winner (unbeaten_of_best dominant) ?_
    rw [rivals_split, rivals_eq_nil.mpr fun d hd => dominant d (List.mem_append_left _ hd),
      rivals_eq_nil.mpr fun d hd => dominant d (List.mem_append_right _ hd)]
    rfl

theorem ofViable_eq_empty_iff : ofViable mode viable = .empty ↔ viable = [] := by
  constructor
  · intro h
    rcases ofViable_cases mode viable with ⟨empty, -⟩ | ⟨_, -, -, h'⟩ | ⟨_, h', -⟩
    · exact empty
    · cases h.symm.trans h'
    · cases h.symm.trans h'
  · rintro rfl
    rfl

theorem of_ofViable_eq_tied {tied : List Candidate} (h : ofViable mode viable = .tied tied) :
    2 ≤ tied.length ∧ tied.Sublist viable := by
  rcases ofViable_cases mode viable with ⟨-, h'⟩ | ⟨_, -, -, h'⟩ | ⟨_, h', facts⟩ <;>
    cases h.symm.trans h'
  exact facts

end Selection

/-! ## Resolution -/

namespace Resolution

open Candidate

variable {r : Registry} {mode : ImplicitObject} {candidates : List TypeHash}
  {arguments : Arguments}

/-- The candidate at a place is viable and dominates every viable one at the other places. -/
def BestAt (r : Registry) (mode : ImplicitObject) (candidates : List TypeHash)
    (arguments : Arguments) (i : Nat) (c : Candidate) : Prop :=
  (∃ hash, candidates[i]? = some hash ∧ evaluate r mode arguments hash = .ok c) ∧
    ∀ hash ∈ candidates.eraseIdx i, ∀ d, evaluate r mode arguments hash = .ok d →
      Dominates mode c d

/-- The match that a candidate amounts to. -/
def matchOf (c : Candidate) : OverloadMatch := ⟨c.function, c.object, c.initializations⟩

theorem viable_append (before after : List TypeHash) :
    viable r mode (before ++ after) arguments =
      viable r mode before arguments ++ viable r mode after arguments := List.filterMap_append

theorem viable_cons {hash : TypeHash} {c : Candidate} {after : List TypeHash}
    (h : evaluate r mode arguments hash = .ok c) :
    viable r mode (hash :: after) arguments = c :: viable r mode after arguments := by
  simp [viable, h, Except.toOption]

/-- A viable candidate stands for one place among the candidates. -/
theorem exists_place_of_viable {front back : List Candidate} {c : Candidate}
    (h : viable r mode candidates arguments = front ++ c :: back) :
    ∃ before hash after, candidates = before ++ hash :: after ∧
      evaluate r mode arguments hash = .ok c ∧ viable r mode before arguments = front ∧
      viable r mode after arguments = back := by
  -- The first candidate is passed over, is the one in question, or stands in front of it.
  induction candidates generalizing front with
  | nil => simp [viable] at h
  | cons hash candidates ih =>
    cases verdict : evaluate r mode arguments hash with
    | error e =>
      have skipped (rest : List TypeHash) :
          viable r mode (hash :: rest) arguments = viable r mode rest arguments := by
        simp [viable, verdict, Except.toOption]
      rw [skipped] at h
      obtain ⟨before, found, after, rfl, isViable, hfront, hback⟩ := ih h
      exact ⟨hash :: before, found, after, rfl, isViable, (skipped before).trans hfront, hback⟩
    | ok d =>
      rw [viable_cons verdict] at h
      cases front with
      | nil =>
        cases h
        exact ⟨[], hash, candidates, rfl, verdict, rfl, rfl⟩
      | cons e front =>
        rw [List.cons_append, List.cons.injEq] at h
        obtain ⟨rfl, h⟩ := h
        obtain ⟨before, found, after, rfl, isViable, rfl, hback⟩ := ih h
        exact ⟨hash :: before, found, after, rfl, isViable, viable_cons verdict, hback⟩

/-- The best place has no equal: two candidates do not dominate each other. -/
theorem BestAt.unique {i j : Nat} {c d : Candidate} (hi : BestAt r mode candidates arguments i c)
    (hj : BestAt r mode candidates arguments j d) : i = j := by
  by_contra different
  obtain ⟨⟨first, atI, viableI⟩, dominatesI⟩ := hi
  obtain ⟨⟨second, atJ, viableJ⟩, dominatesJ⟩ := hj
  have elsewhereI : second ∈ candidates.eraseIdx i :=
    List.mem_eraseIdx_iff_getElem?.mpr ⟨j, Ne.symm different, atJ⟩
  have elsewhereJ : first ∈ candidates.eraseIdx j :=
    List.mem_eraseIdx_iff_getElem?.mpr ⟨i, different, atI⟩
  exact (dominatesI _ elsewhereI _ viableJ).asymm (dominatesJ _ elsewhereJ _ viableI)

/-- The best place among the candidates is that of the winner among the viable ones. -/
theorem exists_bestAt_iff {c : Candidate} :
    (∃ i, BestAt r mode candidates arguments i c) ↔
      Selection.ofViable mode (viable r mode candidates arguments) = .winner c := by
  rw [Selection.ofViable_eq_winner_iff]
  constructor
  · -- The viable ones before and behind the place are the two sides of the winner.
    rintro ⟨i, ⟨hash, found, isViable⟩, dominant⟩
    obtain ⟨bound, rfl⟩ := List.getElem?_eq_some_iff.mp found
    refine ⟨viable r mode (candidates.take i) arguments,
      viable r mode (candidates.drop (i + 1)) arguments, ?_, fun d hd => ?_⟩
    · rw [← viable_cons isViable, ← viable_append, ← List.drop_eq_getElem_cons bound,
        List.take_append_drop]
    · rw [← viable_append, ← List.eraseIdx_eq_take_drop_succ] at hd
      obtain ⟨other, elsewhere, otherViable⟩ := mem_viable.mp hd
      exact dominant other elsewhere d otherViable
  · rintro ⟨front, back, split, dominant⟩
    obtain ⟨before, hash, after, rfl, isViable, rfl, rfl⟩ := exists_place_of_viable split
    refine ⟨before.length, ⟨hash, by simp, isViable⟩, fun other elsewhere d otherViable => ?_⟩
    rw [List.eraseIdx_append_of_length_le (Nat.le_refl _), Nat.sub_self,
      List.eraseIdx_cons_zero] at elsewhere
    refine dominant d ?_
    rw [← viable_append]
    exact mem_viable.mpr ⟨other, elsewhere, otherViable⟩

/-- Functions that tie are viable candidates. -/
theorem mem_of_tied (functions : r.SoundFunctions) {tied : List Candidate}
    (among : tied.Sublist (viable r mode candidates arguments)) {hash : TypeHash}
    (h : hash ∈ inCandidateOrder candidates (tied.map Candidate.function)) :
    hash ∈ candidates ∧ ∃ c, evaluate r mode arguments hash = .ok c := by
  rw [(inCandidateOrder_perm _ _).mem_iff] at h
  obtain ⟨c, hc, rfl⟩ := List.mem_map.mp h
  obtain ⟨hash, candidate, isViable⟩ := mem_viable.mp (among.subset hc)
  obtain ⟨f, found, fits⟩ := evaluate_eq_ok isViable
  -- A function is registered under the identity that its candidate carries.
  have same : c.function = hash := fits.function.trans (functions hash f found)
  rw [same]
  exact ⟨candidate, c, isViable⟩

theorem outcomeOf_eq_noViableCandidate_iff {selection : Selection} :
    outcomeOf candidates selection = .noViableCandidate ↔ selection = .empty := by
  cases selection <;> simp [outcomeOf]

theorem outcomeOf_eq_succeeded_iff {selection : Selection} {found : OverloadMatch} :
    outcomeOf candidates selection = .succeeded found ↔
      ∃ c, selection = .winner c ∧ found = matchOf c := by
  cases selection <;> simp [outcomeOf, matchOf, eq_comm]

theorem outcomeOf_eq_ambiguous_iff {selection : Selection} {tied : List TypeHash} :
    outcomeOf candidates selection = .ambiguous tied ↔
      ∃ among, selection = .tied among ∧
        tied = inCandidateOrder candidates (among.map Candidate.function) := by
  cases selection <;> simp [outcomeOf, eq_comm]

/-- What is selected stands at the best place. -/
theorem selected?_eq_some_iff (functions : r.SoundFunctions) {hash : TypeHash} :
    (resolve r mode candidates arguments).selected? = some hash ↔
      ∃ i c, candidates[i]? = some hash ∧ BestAt r mode candidates arguments i c := by
  have found_of_best {i : Nat} {c : Candidate} (best : BestAt r mode candidates arguments i c) :
      candidates[i]? = some c.function := by
    obtain ⟨⟨hash, isThere, isViable⟩, -⟩ := best
    obtain ⟨f, known, fits⟩ := evaluate_eq_ok isViable
    rw [isThere, fits.function, functions hash f known]
  constructor
  · intro selected
    obtain ⟨found, isMatch, rfl⟩ := Option.map_eq_some_iff.mp selected
    unfold match? at isMatch
    split at isMatch
    · rename_i succeeded
      cases isMatch
      obtain ⟨c, won, rfl⟩ := outcomeOf_eq_succeeded_iff.mp succeeded
      obtain ⟨i, best⟩ := exists_bestAt_iff.mpr won
      exact ⟨i, c, found_of_best best, best⟩
    · cases isMatch
  · rintro ⟨i, c, isThere, best⟩
    have won := exists_bestAt_iff.mp ⟨i, best⟩
    cases isThere.symm.trans (found_of_best best)
    simp [resolve, selected?, match?, won, outcomeOf]

/-- A function that is selected is registered. -/
theorem isSome_function?_of_selected? (functions : r.SoundFunctions) {hash : TypeHash}
    (h : (resolve r mode candidates arguments).selected? = some hash) :
    (r.function? hash).isSome := by
  obtain ⟨i, c, isThere, ⟨found, alsoThere, isViable⟩, -⟩ := (selected?_eq_some_iff functions).mp h
  cases isThere.symm.trans alsoThere
  obtain ⟨f, known, -⟩ := evaluate_eq_ok isViable
  rw [known]
  rfl

theorem viable_eq_nil_iff :
    viable r mode candidates arguments = [] ↔
      ¬∃ hash ∈ candidates, ∃ c, evaluate r mode arguments hash = .ok c := by
  rw [List.eq_nil_iff_forall_not_mem]
  constructor
  · rintro none ⟨hash, candidate, c, isViable⟩
    exact none c (mem_viable.mpr ⟨hash, candidate, isViable⟩)
  · intro none c hc
    obtain ⟨hash, candidate, isViable⟩ := mem_viable.mp hc
    exact none ⟨hash, candidate, c, isViable⟩

/-- **Selection is Pareto dominance**: a call fails for want of viable candidates exactly if there
are none, it succeeds with exactly the candidate that dominates all others, which stands at one
place only, and otherwise it is ambiguous between two or more viable candidates. -/
theorem outcome_eq_pareto (functions : r.SoundFunctions) (mode : ImplicitObject)
    (candidates : List TypeHash) (arguments : Arguments) :
    ((resolve r mode candidates arguments).outcome = .noViableCandidate ↔
        ¬∃ hash ∈ candidates, ∃ c, evaluate r mode arguments hash = .ok c) ∧
      (∀ found, (resolve r mode candidates arguments).outcome = .succeeded found ↔
        ∃ i c, BestAt r mode candidates arguments i c ∧ found = matchOf c) ∧
      (∀ i j c d, BestAt r mode candidates arguments i c → BestAt r mode candidates arguments j d →
        i = j) ∧
      ((∃ hash ∈ candidates, ∃ c, evaluate r mode arguments hash = .ok c) →
        (¬∃ i c, BestAt r mode candidates arguments i c) →
        ∃ tied, (resolve r mode candidates arguments).outcome = .ambiguous tied ∧
          2 ≤ tied.length ∧
          ∀ hash ∈ tied, hash ∈ candidates ∧ ∃ c, evaluate r mode arguments hash = .ok c) := by
  refine ⟨?_, fun found => ?_, fun i j c d => BestAt.unique, fun someViable noBest => ?_⟩
  · rw [resolve, outcomeOf_eq_noViableCandidate_iff, Selection.ofViable_eq_empty_iff,
      viable_eq_nil_iff]
  · rw [resolve, outcomeOf_eq_succeeded_iff]
    constructor
    · rintro ⟨c, won, rfl⟩
      obtain ⟨i, best⟩ := exists_bestAt_iff.mpr won
      exact ⟨i, c, best, rfl⟩
    · rintro ⟨i, c, best, rfl⟩
      exact ⟨c, exists_bestAt_iff.mp ⟨i, best⟩, rfl⟩
  · -- Neither empty nor won, so tied.
    rw [resolve]
    cases selection : Selection.ofViable mode (viable r mode candidates arguments) with
    | empty =>
      rw [Selection.ofViable_eq_empty_iff, viable_eq_nil_iff] at selection
      exact absurd someViable selection
    | winner c =>
      obtain ⟨i, best⟩ := exists_bestAt_iff.mpr selection
      exact absurd ⟨i, c, best⟩ noBest
    | tied tied =>
      obtain ⟨several, among⟩ := Selection.of_ofViable_eq_tied selection
      refine ⟨_, rfl, ?_, fun hash h => mem_of_tied functions among h⟩
      rwa [(inCandidateOrder_perm _ _).length_eq, List.length_map]

/-- A class with three overloads: a const member takes a `char`, a static one an `int`, and a member
for mutable objects a `bool`. -/
def staggered : Registry :=
  let types : Table TypeHash TypeDecl := { entries := [
    (FundamentalKind.bool.hash, .fundamental .bool),
    (FundamentalKind.char.hash, .fundamental .char),
    (FundamentalKind.int.hash, .fundamental .int),
    (⟨1⟩, .classType { hash := ⟨1⟩, name := "Gauge", qualifiedName := "Gauge" })] }
  let overload (hash : TypeHash) (param : FundamentalKind) (traits : FunctionTraits) :
      FunctionDecl :=
    { hash, name := "set", owner := some ⟨1⟩, params := [{ dataType := .ofKind param }], traits }
  (({ types } : Registry).addFunction (overload ⟨11⟩ .char { isConst := true })).addFunction
    (overload ⟨12⟩ .int { isStatic := true }) |>.addFunction (overload ⟨13⟩ .bool {})

theorem staggered_soundFunctions : staggered.SoundFunctions :=
  (((Registry.SoundFunctions.ofTypes _).addFunction _).addFunction _).addFunction _

/-- Of the three overloads the const one is the only one that nobody dominates, and still it is
not the best: it does not dominate the mutable one. -/
theorem outcome_eq_pareto_staggered :
    staggered.SoundFunctions ∧
      (resolve staggered (.provided (.simple ⟨1⟩)) [⟨11⟩, ⟨12⟩, ⟨13⟩]
        (.types [.ofKind .char])).outcome = .ambiguous [⟨11⟩, ⟨13⟩] ∧
      ¬∃ i c, BestAt staggered (.provided (.simple ⟨1⟩)) [⟨11⟩, ⟨12⟩, ⟨13⟩]
        (.types [.ofKind .char]) i c := by
  have ambiguous : (resolve staggered (.provided (.simple ⟨1⟩)) [⟨11⟩, ⟨12⟩, ⟨13⟩]
      (.types [.ofKind .char])).outcome = .ambiguous [⟨11⟩, ⟨13⟩] := by
    cbv
  refine ⟨staggered_soundFunctions, ambiguous, ?_⟩
  rintro ⟨i, c, best⟩
  have succeeded := ((outcome_eq_pareto staggered_soundFunctions _ _ _).2.1 _).mpr
    ⟨i, c, best, rfl⟩
  cases ambiguous.symm.trans succeeded

end Resolution

end ScriptSemantics
