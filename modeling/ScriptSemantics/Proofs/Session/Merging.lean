import Mathlib.Data.List.Sort
import ScriptSemantics.Proofs.Session.Tracking
import ScriptSemantics.Proofs.Template.Matching

/-!
# Merging Deduced Bindings

The bindings of all arguments are put in order of their parameters, neighbours that are equal are
merged, and the first neighbours that bind one parameter are a conflict. The values of one parameter
may come from different arguments and in any order, as in `A, B, A`.

1. In a list that is in order, the first two neighbours for one parameter that are left show the
   smallest parameter with different values, its first value and the first other one
   (`firstConflict?_cases`).
2. Ordering keeps the values of a parameter in the order in which they were recorded
   (`valuesOf_inOrder`), so the same holds of the list that was recorded (`agglomerate_cases`).
3. What was recorded is what each argument finds on its own (`matchParams_of_records`).

The main statement is `deduction_merges_exactly`.
-/

namespace ScriptSemantics

/-! ## Values of a parameter -/

/-- No parameter has two different values. -/
def Consistent (bindings : List Deduction) : Prop :=
  ∀ a ∈ bindings, ∀ b ∈ bindings, a.index = b.index → a.value = b.value

/-- The values that were recorded for a parameter, the first one first. -/
def valuesOf (bindings : List Deduction) (index : Nat) : List TemplateArgument :=
  (bindings.filter fun b => b.index == index).map Deduction.value

/-- The smallest parameter with different values, its first value and the first one that differs. -/
structure FirstConflict (bindings : List Deduction) (index : Nat)
    (first second : TemplateArgument) : Prop where
  isFirst : (valuesOf bindings index).head? = some first
  isSecond : (valuesOf bindings index).find? (· ≠ first) = some second
  smallest : ∀ a ∈ bindings, ∀ b ∈ bindings, a.index = b.index → a.index < index →
    a.value = b.value

variable {bindings : List Deduction} {index : Nat} {first second : TemplateArgument}

theorem valuesOf_cons_of_eq {b : Deduction} (here : b.index = index) :
    valuesOf (b :: bindings) index = b.value :: valuesOf bindings index := by
  simp [valuesOf, here]

theorem valuesOf_cons_of_ne {b : Deduction} (elsewhere : b.index ≠ index) :
    valuesOf (b :: bindings) index = valuesOf bindings index := by
  simp [valuesOf, elsewhere]

theorem mem_valuesOf {v : TemplateArgument} :
    v ∈ valuesOf bindings index ↔ ⟨index, v⟩ ∈ bindings := by
  simp only [valuesOf, List.mem_map, List.mem_filter, beq_iff_eq]
  constructor
  · rintro ⟨b, ⟨member, rfl⟩, rfl⟩
    exact member
  · intro member
    exact ⟨_, ⟨member, rfl⟩, rfl⟩

namespace FirstConflict

theorem first_mem (conflict : FirstConflict bindings index first second) :
    ⟨index, first⟩ ∈ bindings :=
  mem_valuesOf.mp (List.mem_of_mem_head? conflict.isFirst)

theorem second_mem (conflict : FirstConflict bindings index first second) :
    ⟨index, second⟩ ∈ bindings :=
  mem_valuesOf.mp (List.mem_of_find?_eq_some conflict.isSecond)

theorem different (conflict : FirstConflict bindings index first second) : second ≠ first := by
  simpa using List.find?_some conflict.isSecond

theorem not_consistent (conflict : FirstConflict bindings index first second) :
    ¬Consistent bindings := fun consistent =>
  conflict.different (consistent _ conflict.second_mem _ conflict.first_mem rfl)

theorem not_lt {index' : Nat} {first' second' : TemplateArgument}
    (conflict : FirstConflict bindings index first second)
    (conflict' : FirstConflict bindings index' first' second') : ¬index < index' := fun less =>
  conflict.different
    (conflict'.smallest _ conflict.second_mem _ conflict.first_mem rfl less)

/-- There is one first conflict at most. -/
theorem unique {index' : Nat} {first' second' : TemplateArgument}
    (conflict : FirstConflict bindings index first second)
    (conflict' : FirstConflict bindings index' first' second') :
    index = index' ∧ first = first' ∧ second = second' := by
  obtain rfl : index = index' :=
    Nat.le_antisymm (Nat.not_lt.mp (conflict'.not_lt conflict))
      (Nat.not_lt.mp (conflict.not_lt conflict'))
  obtain rfl := Option.some.inj (conflict.isFirst.symm.trans conflict'.isFirst)
  exact ⟨rfl, rfl, Option.some.inj (conflict.isSecond.symm.trans conflict'.isSecond)⟩

end FirstConflict

/-! ## Lists in order -/

section InFront

variable {b : Deduction}

theorem mem_cons_cons_self {d : Deduction} : d ∈ b :: b :: bindings ↔ d ∈ b :: bindings := by
  simp

theorem FirstConflict.cons_self (conflict : FirstConflict (b :: bindings) index first second) :
    FirstConflict (b :: b :: bindings) index first second := by
  obtain ⟨isFirst, isSecond, smallest⟩ := conflict
  have smallest' : ∀ a ∈ b :: b :: bindings, ∀ a' ∈ b :: b :: bindings, a.index = a'.index →
      a.index < index → a.value = a'.value := fun a member a' member' =>
    smallest a (mem_cons_cons_self.mp member) a' (mem_cons_cons_self.mp member')
  by_cases here : b.index = index
  · -- The binding is the first one for the parameter, and the search passes both.
    rw [valuesOf_cons_of_eq here] at isFirst isSecond
    have isValue : b.value = first := Option.some.inj isFirst
    refine ⟨?_, ?_, smallest'⟩ <;> rw [valuesOf_cons_of_eq here, valuesOf_cons_of_eq here]
    · exact isFirst
    · rw [List.find?_cons_of_neg (by simpa using isValue)]
      exact isSecond
  · rw [← valuesOf_cons_of_ne here] at isFirst isSecond
    exact ⟨isFirst, isSecond, smallest'⟩

/-- Two bindings for one parameter are both the one in front, or both behind it. -/
theorem mem_of_below (below : ∀ d ∈ bindings, b.index < d.index) {a a' : Deduction}
    (member : a ∈ b :: bindings) (member' : a' ∈ b :: bindings) (same : a.index = a'.index) :
    a = a' ∨ a ∈ bindings ∧ a' ∈ bindings := by
  rcases List.mem_cons.mp member with rfl | later
  · rcases List.mem_cons.mp member' with rfl | later'
    · exact .inl rfl
    · exact absurd same (Nat.ne_of_lt (below a' later'))
  · rcases List.mem_cons.mp member' with rfl | later'
    · exact absurd same.symm (Nat.ne_of_lt (below a later))
    · exact .inr ⟨later, later'⟩

theorem FirstConflict.cons_of_below (conflict : FirstConflict bindings index first second)
    (below : ∀ d ∈ bindings, b.index < d.index) :
    FirstConflict (b :: bindings) index first second := by
  have elsewhere : b.index ≠ index := Nat.ne_of_lt (below _ conflict.first_mem)
  refine ⟨?_, ?_, fun a member a' member' same less => ?_⟩
  · rw [valuesOf_cons_of_ne elsewhere]
    exact conflict.isFirst
  · rw [valuesOf_cons_of_ne elsewhere]
    exact conflict.isSecond
  · rcases mem_of_below below member member' same with rfl | ⟨later, later'⟩
    · rfl
    · exact conflict.smallest a later a' later' same less

end InFront

theorem exists_eraseReps_cons {α : Type} [DecidableEq α] (a : α) (as : List α) :
    ∃ rest, (a :: as).eraseReps = a :: rest := by
  induction as generalizing a with
  | nil => exact ⟨[], rfl⟩
  | cons b as ih =>
    rw [eraseReps_cons_cons]
    split
    · rename_i same
      rw [same]
      exact ih b
    · exact ⟨_, rfl⟩

/-- What is left of a list in order when repetitions are erased: one binding for each parameter, or
neighbours that show the first conflict. By induction on the list, comparing its first two
bindings. -/
theorem firstConflict?_cases {sorted : List Deduction}
    (inOrder : sorted.Pairwise fun a b => a.index ≤ b.index) :
    firstConflict? sorted.eraseReps = none ∨
      ∃ a b, firstConflict? sorted.eraseReps = some (a, b) ∧
        FirstConflict sorted a.index a.value b.value := by
  induction sorted with
  | nil => exact .inl rfl
  | cons x rest ih =>
    cases rest with
    | nil => exact .inl rfl
    | cons y rest =>
      have before : ∀ d ∈ y :: rest, x.index ≤ d.index := fun d member =>
        List.rel_of_pairwise_cons inOrder member
      obtain ⟨left, begins⟩ := exists_eraseReps_cons y rest
      rw [eraseReps_cons_cons]
      by_cases same : x = y
      · -- A repetition changes nothing.
        subst same
        rw [if_pos rfl]
        rcases ih inOrder.tail with none | ⟨a, b, found, conflict⟩
        · exact .inl none
        · exact .inr ⟨a, b, found, conflict.cons_self⟩
      rw [if_neg same, begins, firstConflict?]
      by_cases sameIndex : x.index = y.index
      · -- The first parameter has two values in front.
        have differs : y.value ≠ x.value := by
          intro sameValue
          apply same
          rw [Deduction.mk.injEq]
          exact ⟨sameIndex, sameValue.symm⟩
        rw [if_pos sameIndex]
        refine .inr ⟨x, y, rfl, ?_, ?_, fun a member _ _ _ less => ?_⟩
        · rw [valuesOf_cons_of_eq rfl]
          rfl
        · rw [valuesOf_cons_of_eq rfl, valuesOf_cons_of_eq sameIndex.symm]
          simp [differs]
        · rcases List.mem_cons.mp member with rfl | later
          · exact absurd less (Nat.lt_irrefl _)
          · exact absurd less (Nat.not_lt.mpr (before a later))
      · -- The first parameter has one value, and the rest is for greater ones.
        rw [if_neg sameIndex, ← begins]
        have below : ∀ d ∈ y :: rest, x.index < d.index := by
          intro d member
          have toY := before y List.mem_cons_self
          rcases List.mem_cons.mp member with rfl | later
          · omega
          · have fromY : y.index ≤ d.index := List.rel_of_pairwise_cons inOrder.tail later
            omega
        rcases ih inOrder.tail with none | ⟨a, b, found, conflict⟩
        · exact .inl none
        · exact .inr ⟨a, b, found, conflict.cons_of_below below⟩

/-! ## Lists as recorded -/

/-- Ordering does not move the bindings for one parameter past each other. -/
theorem valuesOf_inOrder (bindings : List Deduction) (index : Nat) :
    valuesOf (inOrder bindings) index = valuesOf bindings index := by
  have all : ∀ d ∈ bindings.filter fun b => b.index == index, d.index = index := fun d member =>
    beq_iff_eq.mp (List.mem_filter.mp member).2
  -- The bindings for the parameter are in order already, so ordering keeps them as a sublist.
  have alike : (bindings.filter fun b => b.index == index).Pairwise fun a b =>
      decide (a.index ≤ b.index) = true := by
    refine List.pairwise_of_forall_mem_list ?_
    intro a member b member'
    simp [all a member, all b member']
  have sublist : (bindings.filter fun b => b.index == index).Sublist (inOrder bindings) :=
    List.sublist_mergeSort index_le_trans index_le_total alike List.filter_sublist
  -- They are all that the ordered list has for the parameter, because no binding is added.
  have sublist' := sublist.filter fun b => b.index == index
  rw [List.filter_filter, List.filter_congr (q := fun b => b.index == index) (by simp)] at sublist'
  have sameLength := ((List.mergeSort_perm bindings fun a b => a.index ≤ b.index).filter
    fun b => b.index == index).length_eq
  exact congrArg (List.map Deduction.value) (sublist'.eq_of_length sameLength.symm).symm

theorem FirstConflict.of_inOrder
    (conflict : FirstConflict (inOrder bindings) index first second) :
    FirstConflict bindings index first second := by
  obtain ⟨isFirst, isSecond, smallest⟩ := conflict
  simp only [valuesOf_inOrder, mem_inOrder] at isFirst isSecond smallest
  exact ⟨isFirst, isSecond, smallest⟩

/-- One binding for each parameter that was bound, in order. -/
structure Merges (bindings merged : List Deduction) : Prop where
  increasing : merged.Pairwise fun a b => a.index < b.index
  mem_iff : ∀ d, d ∈ merged ↔ d ∈ bindings

theorem Merges.unique {merged merged' : List Deduction} (merges : Merges bindings merged)
    (merges' : Merges bindings merged') : merged = merged' := by
  have antisymm : Std.Antisymm fun a b : Deduction => a.index < b.index :=
    ⟨fun _ _ less greater => absurd less (Nat.lt_asymm greater)⟩
  have irrefl : Std.Irrefl fun a b : Deduction => a.index < b.index := ⟨fun _ => Nat.lt_irrefl _⟩
  refine merges.increasing.eq_of_mem_iff merges'.increasing fun d => ?_
  rw [merges.mem_iff, merges'.mem_iff]

theorem Merges.consistent {merged : List Deduction} (merges : Merges bindings merged) :
    Consistent bindings := by
  have distinct : (merged.map Deduction.index).Nodup :=
    List.pairwise_map.mpr (merges.increasing.imp Nat.ne_of_lt)
  intro a member b member' same
  rw [← merges.mem_iff] at member member'
  rw [List.inj_on_of_nodup_map distinct member member' same]

/-- Consistent bindings are merged, and others are refused with their first conflict. -/
theorem agglomerate_cases (template : TypeHash) (bindings : List Deduction) :
    (∃ merged, agglomerate template bindings = .ok merged ∧ Merges bindings merged) ∨
      ∃ index first second, agglomerate template bindings =
          .error (.deductionConflict template index first second) ∧
        FirstConflict bindings index first second := by
  have sorted := sorted_inOrder bindings
  -- Neighbours that are left tell both ways out apart.
  rcases firstConflict?_cases sorted with none | ⟨a, b, found, conflict⟩
  · refine .inl ⟨(inOrder bindings).eraseReps, ?_, ?_, ?_⟩
    · simp only [inOrder] at none ⊢
      simp only [agglomerate, none]
    · exact pairwise_of_firstConflict?_eq_none (sorted.sublist (eraseReps_sublist _)) none
    · intro d
      rw [mem_eraseReps, mem_inOrder]
  · refine .inr ⟨a.index, a.value, b.value, ?_, conflict.of_inOrder⟩
    simp only [inOrder] at found
    simp only [agglomerate, found]

theorem agglomerate_eq_ok_iff {template : TypeHash} {merged : List Deduction} :
    agglomerate template bindings = .ok merged ↔ Merges bindings merged := by
  rcases agglomerate_cases template bindings with ⟨merged', result, merges⟩ |
    ⟨index, first, second, result, conflict⟩ <;> rw [result]
  · constructor
    · intro same
      cases same
      exact merges
    · -- Bindings can be merged in one way only.
      intro merges'
      rw [merges.unique merges']
  · exact ⟨nofun, fun merges => absurd merges.consistent conflict.not_consistent⟩

/-! ## Arguments on their own -/

namespace DeductionContext

variable {ctx : DeductionContext}

/-- The bindings that are recorded for the arguments of a call, each matched on its own, in the
order of the arguments. -/
inductive Records (ctx : DeductionContext) :
    List (DataType × DataType) → List Deduction → Prop where
  | nil : Records ctx [] []
  | cons {pattern arg : DataType} {bindings bindings' : List Deduction}
      {pairs : List (DataType × DataType)} (finds : ctx.Finds pattern arg bindings)
      (rest : Records ctx pairs bindings') :
      Records ctx ((pattern, arg) :: pairs) (ctx.kept bindings ++ bindings')

/-- Bindings are recorded exactly if each pair matches. -/
theorem exists_records_iff {pairs : List (DataType × DataType)} :
    (∃ bindings, ctx.Records pairs bindings) ↔
      ∀ pair ∈ pairs, ∃ bindings, ctx.Finds pair.1 pair.2 bindings := by
  induction pairs with
  | nil => exact ⟨fun _ => nofun, fun _ => ⟨[], .nil⟩⟩
  | cons pair pairs ih =>
    rw [List.forall_mem_cons, ← ih]
    constructor
    · rintro ⟨_, _ | ⟨finds, rest⟩⟩
      exact ⟨⟨_, finds⟩, _, rest⟩
    · rintro ⟨⟨_, finds⟩, _, rest⟩
      exact ⟨_, .cons finds rest⟩

theorem Records.explicit_le {pairs : List (DataType × DataType)}
    (records : ctx.Records pairs bindings) {d : Deduction} (member : d ∈ bindings) :
    ctx.explicit ≤ d.index := by
  induction records with
  | nil => cases member
  | cons _ _ ih =>
    rcases List.mem_append.mp member with here | later
    · exact of_decide_eq_true (List.mem_filter.mp here).2
    · exact ih later

/-- Arguments in another order leave the same bindings, in another order. -/
theorem Records.perm {pairs pairs' : List (DataType × DataType)}
    (records : ctx.Records pairs bindings) (perm : pairs.Perm pairs') :
    ∃ bindings', ctx.Records pairs' bindings' ∧ bindings.Perm bindings' := by
  induction perm generalizing bindings with
  | nil => exact ⟨bindings, records, .refl _⟩
  | cons pair _ ih =>
    rcases records with _ | ⟨finds, rest⟩
    obtain ⟨_, rest', same⟩ := ih rest
    exact ⟨_, .cons finds rest', same.append_left _⟩
  | swap pair pair' pairs =>
    -- The first two arguments are matched on their own, so they can be taken in either order.
    rcases records with _ | ⟨finds', _ | ⟨finds, rest⟩⟩
    refine ⟨_, .cons finds (.cons finds' rest), ?_⟩
    rw [← List.append_assoc, ← List.append_assoc]
    exact List.perm_append_comm.append_right _
  | trans _ _ ih ih' =>
    obtain ⟨_, records', same⟩ := ih records
    obtain ⟨bindings'', records'', same'⟩ := ih' records'
    exact ⟨bindings'', records'', same.trans same'⟩

theorem matchParams_of_records {patterns args : List DataType}
    (records : ctx.Records (patterns.zip args) bindings) (position : Nat) :
    ctx.matchParams position patterns args = { bindings } := by
  induction patterns generalizing args position bindings with
  | nil =>
    rcases records with _ | _
    rfl
  | cons pattern patterns ih =>
    cases args with
    | nil =>
      -- Patterns without an argument are left out, as arguments without a pattern are.
      rcases records with _ | _
      rfl
    | cons arg args =>
      rcases records with _ | ⟨finds, rest⟩
      exact MatchResult.andThen_eq_bindings_iff.mpr
        ⟨_, _, matchParam_of_finds finds position, ih rest (position + 1), rfl⟩

theorem exists_records_of_matchParams {patterns args : List DataType} {position : Nat}
    (accepted : (ctx.matchParams position patterns args).failure = none) :
    ∃ bindings, ctx.Records (patterns.zip args) bindings := by
  induction patterns generalizing args position with
  | nil => exact ⟨[], .nil⟩
  | cons pattern patterns ih =>
    cases args with
    | nil => exact ⟨[], .nil⟩
    | cons arg args =>
      rw [matchParams, MatchResult.failure_andThen_iff] at accepted
      obtain ⟨_, finds⟩ := exists_finds_of_matchParam accepted.1
      obtain ⟨_, rest⟩ := ih accepted.2
      exact ⟨_, .cons finds rest⟩

theorem deduce_of_records {patterns args : List DataType}
    (records : ctx.Records (patterns.zip args) bindings) :
    ctx.deduce patterns args = agglomerate ctx.template bindings := by
  simp only [deduce, matchParams_of_records records]

theorem exists_records_of_deduce {patterns args : List DataType} {deduced : List Deduction}
    (succeeded : ctx.deduce patterns args = .ok deduced) :
    ∃ bindings, ctx.Records (patterns.zip args) bindings := by
  rw [deduce] at succeeded
  cases accepted : (ctx.matchParams 0 patterns args).failure with
  | some e => simp [accepted] at succeeded
  | none => exact exists_records_of_matchParams accepted

/-- Deduction succeeds with what is recorded for the arguments, merged. -/
theorem deduce_eq_ok_iff {patterns args : List DataType} {deduced : List Deduction} :
    ctx.deduce patterns args = .ok deduced ↔
      ∃ bindings, ctx.Records (patterns.zip args) bindings ∧ Merges bindings deduced := by
  constructor
  · intro succeeded
    obtain ⟨bindings, records⟩ := exists_records_of_deduce succeeded
    rw [deduce_of_records records] at succeeded
    exact ⟨bindings, records, agglomerate_eq_ok_iff.mp succeeded⟩
  · rintro ⟨bindings, records, merges⟩
    rw [deduce_of_records records]
    exact agglomerate_eq_ok_iff.mpr merges

theorem exists_deduce_iff {patterns args : List DataType} :
    (∃ deduced, ctx.deduce patterns args = .ok deduced) ↔
      (∀ pair ∈ patterns.zip args, ∃ bindings, ctx.Finds pair.1 pair.2 bindings) ∧
        ∀ bindings, ctx.Records (patterns.zip args) bindings → Consistent bindings := by
  rw [← exists_records_iff]
  constructor
  · rintro ⟨deduced, succeeded⟩
    refine ⟨exists_records_of_deduce succeeded, fun bindings records => ?_⟩
    rw [deduce_of_records records, agglomerate_eq_ok_iff] at succeeded
    exact succeeded.consistent
  · rintro ⟨⟨bindings, records⟩, consistent⟩
    rw [deduce_of_records records]
    rcases agglomerate_cases ctx.template bindings with ⟨merged, result, -⟩ |
      ⟨_, _, _, -, conflict⟩
    · exact ⟨merged, result⟩
    · exact absurd (consistent bindings records) conflict.not_consistent

/-- Deduction does not depend on the order of the arguments with their patterns. -/
theorem deduce_of_perm {patterns args patterns' args' : List DataType}
    (perm : (patterns.zip args).Perm (patterns'.zip args')) {deduced : List Deduction}
    (succeeded : ctx.deduce patterns args = .ok deduced) :
    ctx.deduce patterns' args' = .ok deduced := by
  rw [deduce_eq_ok_iff] at succeeded ⊢
  obtain ⟨bindings, records, increasing, mem_iff⟩ := succeeded
  obtain ⟨bindings', records', same⟩ := records.perm perm
  exact ⟨bindings', records', increasing, fun d => (mem_iff d).trans same.mem_iff⟩

theorem exists_conflict_of_records {patterns args : List DataType}
    (records : ctx.Records (patterns.zip args) bindings) (inconsistent : ¬Consistent bindings) :
    ∃ index first second, ctx.deduce patterns args =
        .error (.deductionConflict ctx.template index first second) ∧
      FirstConflict bindings index first second := by
  rw [deduce_of_records records]
  rcases agglomerate_cases ctx.template bindings with ⟨_, -, merges⟩ | conflict
  · exact absurd merges.consistent inconsistent
  · exact conflict

end DeductionContext

/-! ## Deduction for a registered template -/

theorem exec_deduceArguments_of_le {s : Session} {template : TypeHash} {t : FunctionTemplate}
    (registered : s.registry.functionTemplate? template = some t)
    {explicit : List TemplateArgument} (few : explicit.length ≤ t.params.length)
    (types : List DataType) :
    exec (deduceArguments template explicit types) s =
      (({ registry := s.registry, template, explicit := explicit.length } :
        DeductionContext).deduce (t.signature.map Param.dataType) types, s) := by
  rw [exec_deduceArguments registered, CompletionContext.checkCount, if_neg (Nat.not_lt.mpr few)]
  rfl

/-- Deduction merges bindings exactly. It runs on the signature of the template; a pair of a pattern
and an argument is accepted at any position exactly if it matches on its own. For all patterns and
arguments, deduction succeeds exactly if each pair matches and no parameter that is open receives
two values. The result is then strictly increasing, is for open parameters only, holds exactly the
bindings that were recorded, and is the same for the pairs in another order. If all pairs match but
not consistently, the error names the smallest parameter in conflict, the value recorded first for
it and the first one that differs from this. -/
theorem deduction_merges_exactly {s : Session} {template : TypeHash} {t : FunctionTemplate}
    (registered : s.registry.functionTemplate? template = some t)
    {explicit : List TemplateArgument} (few : explicit.length ≤ t.params.length) :
    let ctx : DeductionContext := { registry := s.registry, template, explicit := explicit.length }
    (∀ types, exec (deduceArguments template explicit types) s =
      (ctx.deduce (t.signature.map Param.dataType) types, s)) ∧
    (∀ pattern arg position, (ctx.matchParam pattern arg position).failure = none ↔
      ∃ bindings, ctx.Finds pattern arg bindings) ∧
    ∀ patterns args : List DataType,
      ((∃ deduced, ctx.deduce patterns args = .ok deduced) ↔
        (∀ pair ∈ patterns.zip args, ∃ bindings, ctx.Finds pair.1 pair.2 bindings) ∧
          ∀ bindings, ctx.Records (patterns.zip args) bindings → Consistent bindings) ∧
      (∀ deduced, ctx.deduce patterns args = .ok deduced →
        deduced.Pairwise (fun a b => a.index < b.index) ∧
        (∀ d ∈ deduced, explicit.length ≤ d.index) ∧
        ∀ bindings, ctx.Records (patterns.zip args) bindings →
          ∀ d, d ∈ deduced ↔ d ∈ bindings) ∧
      (∀ patterns' args' : List DataType, (patterns.zip args).Perm (patterns'.zip args') →
        ∀ deduced, ctx.deduce patterns args = .ok deduced ↔
          ctx.deduce patterns' args' = .ok deduced) ∧
      ∀ bindings, ctx.Records (patterns.zip args) bindings → ¬Consistent bindings →
        ∃ index first second, ctx.deduce patterns args =
            .error (.deductionConflict template index first second) ∧
          FirstConflict bindings index first second := by
  intro ctx
  refine ⟨exec_deduceArguments_of_le registered few, fun pattern arg position => ?_,
    fun patterns args => ⟨DeductionContext.exists_deduce_iff, fun deduced succeeded => ?_,
      fun patterns' args' perm deduced => ?_,
      fun bindings => DeductionContext.exists_conflict_of_records⟩⟩
  · constructor
    · exact DeductionContext.exists_finds_of_matchParam
    · rintro ⟨bindings, finds⟩
      rw [DeductionContext.matchParam_of_finds finds position]
  · obtain ⟨bindings, records, merges⟩ := DeductionContext.deduce_eq_ok_iff.mp succeeded
    refine ⟨merges.increasing, fun d member => ?_, fun bindings' records' d => ?_⟩
    · exact records.explicit_le ((merges.mem_iff d).mp member)
    · -- Whatever the arguments record is what was merged.
      rw [DeductionContext.deduce_of_records records', agglomerate_eq_ok_iff] at succeeded
      exact succeeded.mem_iff d
  · exact ⟨DeductionContext.deduce_of_perm perm, DeductionContext.deduce_of_perm perm.symm⟩

/-! A function template that binds `T` by its first parameter, inside a template-id, and by its last
parameter again. -/

/-- The types `int` and `float`, as arguments. -/
def intArgument : TemplateArgument := .ofHash FundamentalKind.int.hash

def floatArgument : TemplateArgument := .ofHash FundamentalKind.float.hash

/-- A function template `clamp` with the signature `(T, Range<T, U>, T)`. -/
def clamp : FunctionTemplate where
  name := "clamp"
  qualifiedName := "clamp"
  hash := ⟨1⟩
  params := [
    { name := "T", kind := .type, typeHash := ⟨2⟩ },
    { name := "U", kind := .type, typeHash := ⟨3⟩ }]
  signature := [
    { dataType := .simple ⟨2⟩ }, { dataType := .simple ⟨4⟩ }, { dataType := .simple ⟨2⟩ }]
  backend := .script 0

/-- The class instance is `Range<float, int>`. -/
def ranges : Session where
  registry := {
    types := { entries := [
      (⟨2⟩, .placeholder { hash := ⟨2⟩, name := "T", owner := ⟨1⟩, index := 0, kind := .type }),
      (⟨3⟩, .placeholder { hash := ⟨3⟩, name := "U", owner := ⟨1⟩, index := 1, kind := .type }),
      (⟨4⟩, .pattern { hash := ⟨4⟩, template := ⟨10⟩, arguments := [.ofHash ⟨2⟩, .ofHash ⟨3⟩] }),
      (⟨20⟩, .classType { ClassDecl.templateInstance "" "Range" ⟨10⟩ [floatArgument, intArgument]
        with hash := ⟨20⟩ })] }
    functionTemplates := { entries := [(⟨1⟩, clamp)] } }

/-- The call `clamp(int, Range<float, int>, int)`. -/
def clampCall : List DataType :=
  [.simple FundamentalKind.int.hash, .simple ⟨20⟩, .simple FundamentalKind.int.hash]

theorem ranges_records (explicit : Nat) :
    let ctx : DeductionContext := { registry := ranges.registry, template := ⟨1⟩, explicit }
    ctx.Records ((clamp.signature.map Param.dataType).zip clampCall)
      (ctx.kept [⟨0, intArgument⟩] ++ (ctx.kept [⟨0, floatArgument⟩, ⟨1, intArgument⟩] ++
        (ctx.kept [⟨0, intArgument⟩] ++ []))) := by
  intro ctx
  have inner : ctx.Derives [(.ofHash ⟨2⟩, floatArgument), (.ofHash ⟨3⟩, intArgument)]
      ([⟨0, floatArgument⟩] ++ ([⟨1, intArgument⟩] ++ [])) :=
    .settle (.type rfl rfl) (.settle (.type rfl rfl) .nil)
  exact .cons (.placeholder rfl nofun) (.cons (.parts rfl rfl rfl inner)
    (.cons (.placeholder rfl nofun) .nil))

/-- The values of `T` are `int`, `float` and `int`, which is a conflict; once `T` is given, `U` is
deduced. -/
theorem deduction_merges_exactly_clamp :
    exec (deduceArguments ⟨1⟩ [] clampCall) ranges =
        (.error (.deductionConflict ⟨1⟩ 0 intArgument floatArgument), ranges) ∧
      exec (deduceArguments ⟨1⟩ [intArgument] clampCall) ranges =
        (.ok [⟨1, intArgument⟩], ranges) := by
  have registered : ranges.registry.functionTemplate? ⟨1⟩ = some clamp := rfl
  have none : ([] : List TemplateArgument).length ≤ clamp.params.length := by decide
  have one : [intArgument].length ≤ clamp.params.length := by decide
  constructor
  · obtain ⟨runs, -, merges⟩ := deduction_merges_exactly registered none
    obtain ⟨-, -, -, refuses⟩ := merges (clamp.signature.map Param.dataType) clampCall
    have conflict : FirstConflict [⟨0, intArgument⟩, ⟨0, floatArgument⟩, ⟨1, intArgument⟩,
        ⟨0, intArgument⟩] 0 intArgument floatArgument :=
      ⟨rfl, by decide, fun _ _ _ _ _ less => absurd less (Nat.not_lt_zero _)⟩
    obtain ⟨_, _, _, refused, found⟩ := refuses _ (ranges_records 0) conflict.not_consistent
    obtain ⟨rfl, rfl, rfl⟩ := conflict.unique found
    rw [runs, refused]
  · obtain ⟨runs, -, -⟩ := deduction_merges_exactly registered one
    have merges : Merges [⟨1, intArgument⟩] [⟨1, intArgument⟩] := ⟨List.pairwise_singleton _ _,
      fun _ => .rfl⟩
    have records := ranges_records [intArgument].length
    rw [runs, DeductionContext.deduce_eq_ok_iff.mpr ⟨_, records, merges⟩]

end ScriptSemantics
