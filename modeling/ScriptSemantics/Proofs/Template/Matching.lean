import Mathlib.Data.List.Chain
import ScriptSemantics.Proofs.Template.Completion
import ScriptSemantics.Proofs.Template.Derivations

/-!
# What Deduction Has Matched

Deduction matches patterns against argument types, merges the bindings and hands them to completion.
`DeductionContext.Matches` says what a match means: read with the bindings for its placeholders, the
pattern is the argument. Whatever the search accepts has a derivation by the rules of matching, and
each rule keeps to that meaning (`matches_of_derives`).

Merging keeps each binding and refuses a second value for the same parameter. So in the completed
list the parameter of each binding has the value of that binding.
-/

namespace ScriptSemantics

/-! ## Successful results -/

namespace MatchResult

/-- There was no mismatch, and all bindings are among some given ones. -/
def Succeeds (result : MatchResult) (bindings : List Deduction) : Prop :=
  result.failure = none ∧ ∀ b ∈ result.bindings, b ∈ bindings

variable {bindings : List Deduction}

theorem succeeds_andThen_iff {first : MatchResult} {second : Unit → MatchResult} :
    (first.andThen second).Succeeds bindings ↔
      first.Succeeds bindings ∧ (second ()).Succeeds bindings := by
  unfold Succeeds andThen
  cases failure : first.failure with
  | some e => simp [failure]
  | none =>
    simp only [List.mem_append, true_and]
    constructor
    · rintro ⟨rest, all⟩
      exact ⟨fun b member => all b (.inl member), rest, fun b member => all b (.inr member)⟩
    · rintro ⟨all, rest, all'⟩
      exact ⟨rest, fun b member => member.elim (all b) (all' b)⟩

end MatchResult

/-- Qualifiers that were taken off come back on top of the rest. -/
theorem Qualifiers.union_diff {a b : Qualifiers} (h : a.contains b) : (a.diff b).union b = a := by
  obtain ⟨ac, ar, aa⟩ := a
  obtain ⟨bc, br, ba⟩ := b
  revert ac ar aa bc br ba
  decide

namespace DeductionContext

variable {ctx : DeductionContext} {bindings : List Deduction}

/-! ## Matching without a search -/

/-- Read with the bindings for the placeholders of the template, the pattern on the left is the
argument on the right. -/
inductive Matches (ctx : DeductionContext) (bindings : List Deduction) :
    TemplateArgument → TemplateArgument → Prop where
  /-- The qualifiers of the pattern come on top of those of the type that is bound. -/
  | placeholder {pattern value : DataType} {index : Nat} {kind : TemplateParamKind}
      (isOwn : ctx.placeholder? pattern = some (index, kind))
      (bound : { index, value := .type value } ∈ bindings) :
      Matches ctx bindings (.type pattern) (.type (value.add pattern.qualifiers))
  | valuePlaceholder {pattern : DataType} {value : TemplateArgument} {index : Nat}
      {kind : TemplateParamKind} (isOwn : ctx.placeholder? pattern = some (index, kind))
      (bound : { index, value } ∈ bindings) (isValue : value.type? = none) :
      Matches ctx bindings (.type pattern) value
  /-- A type that is no placeholder of the template may stand for itself. -/
  | concrete {t : DataType} (notOwn : ctx.placeholder? t = none) :
      Matches ctx bindings (.type t) (.type t)
  | templateId {pattern found : DataType} {p : Pattern} {c : ClassDecl}
      (isPattern : ctx.registry.type? pattern.typeHash = some (.pattern p))
      (isClass : ctx.registry.class? found.typeHash = some c)
      (sameTemplate : c.template = some p.template)
      (sameLength : c.templateArgs.length = p.arguments.length)
      (sameQualifiers : found.qualifiers = pattern.qualifiers)
      (parts : ∀ pair ∈ p.arguments.zip c.templateArgs, Matches ctx bindings pair.1 pair.2) :
      Matches ctx bindings (.type pattern) (.type found)
  | functionType {pattern found : DataType} {f g : FunctionType}
      (isFunction : ctx.registry.type? pattern.typeHash = some (.functionType f))
      (isFunction' : ctx.registry.type? found.typeHash = some (.functionType g))
      (sameLength : g.params.length = f.params.length)
      (sameQualifiers : found.qualifiers = pattern.qualifiers)
      (parts : ∀ pair ∈ (f.returnType :: f.params).zip (g.returnType :: g.params),
        Matches ctx bindings (.type pair.1) (.type pair.2)) :
      Matches ctx bindings (.type pattern) (.type found)
  | value {a : TemplateArgument} (isValue : a.type? = none) : Matches ctx bindings a a

/-! ## What the search accepts -/

theorem matches_of_settles {expected actual : TemplateArgument} {settled : List Deduction}
    (settles : ctx.Settles expected actual settled) (among : settled ⊆ bindings) :
    ctx.Matches bindings expected actual := by
  cases settles with
  | @type pattern found index isOwn contains =>
    -- The qualifiers of the pattern were taken off before the rest was bound.
    have restored := Matches.placeholder isOwn (among List.mem_cons_self)
    rw [DataType.add, Qualifiers.union_diff contains] at restored
    exact restored
  | bool isOwn => exact .valuePlaceholder isOwn (among List.mem_cons_self) rfl
  | integer isOwn => exact .valuePlaceholder isOwn (among List.mem_cons_self) rfl
  | same notOwn _ => exact .concrete notOwn
  | value isValue => exact .value isValue

/-- Types match, up to qualifiers, if their components do. -/
theorem matches_of_parts {pattern found : DataType}
    {inner : List (TemplateArgument × TemplateArgument)}
    (notOwn : ctx.placeholder? pattern = none) (dependent : ctx.isDependent pattern)
    (parts : ctx.parts? pattern.typeHash found.typeHash = some inner)
    (all : ∀ pair ∈ inner, ctx.Matches bindings pair.1 pair.2) :
    ctx.Matches bindings (.type pattern) (.type ⟨found.typeHash, pattern.qualifiers⟩) := by
  unfold parts? at parts
  split at parts
  · rename_i p isPattern
    split at parts
    · rename_i c isClass
      obtain ⟨agrees, ⟨⟩⟩ := Option.ite_none_right_eq_some.mp parts
      exact .templateId isPattern isClass agrees.1 agrees.2 rfl all
    · cases parts
  · rename_i f isFunction
    split at parts
    · rename_i g isFunction'
      obtain ⟨sameLength, ⟨⟩⟩ := Option.ite_none_right_eq_some.mp parts
      refine .functionType isFunction ?_ sameLength rfl fun pair member => ?_
      · obtain ⟨decl, known, isFunctionType⟩ := Option.bind_eq_some_iff.mp isFunction'
        cases decl <;> cases isFunctionType
        exact known
      · refine all (.type pair.1, .type pair.2) ?_
        rw [List.zip_map, List.mem_map]
        exact ⟨pair, member, rfl⟩
    · cases parts
  · -- Nothing can occur in a type of another kind.
    rename_i noPattern noFunction
    have noComponents : ctx.registry.components pattern.typeHash = [] := by
      unfold Registry.components
      cases known : ctx.registry.type? pattern.typeHash with
      | none => rfl
      | some decl =>
        cases decl with
        | pattern p => exact absurd known (noPattern p)
        | functionType f => exact absurd known (noFunction f)
        | fundamental _ | classType _ | enumType _ | closure _ | placeholder _ => rfl
    rw [isDependent, mentions_succ, notOwn, noComponents] at dependent
    cases dependent

/-- By induction on the derivation. -/
theorem matches_of_derives {pairs : List (TemplateArgument × TemplateArgument)}
    {derived : List Deduction} (derives : ctx.Derives pairs derived) (among : derived ⊆ bindings) :
    ∀ pair ∈ pairs, ctx.Matches bindings pair.1 pair.2 := by
  induction derives with
  | nil => exact fun _ member => nomatch member
  | settle settles _ ih =>
    rw [List.append_subset] at among
    exact List.forall_mem_cons.mpr ⟨matches_of_settles settles among.1, ih among.2⟩
  | @descend pattern found _ inner pairs descends parts _ ih =>
    -- Inside a pattern qualifiers have to agree, while those of a call are left open.
    have all := List.forall_mem_append.mp (ih among)
    have matched := matches_of_parts descends.notOwn descends.dependent parts all.1
    rw [← descends.sameQualifiers] at matched
    exact List.forall_mem_cons.mpr ⟨matched, all.2⟩

/-- What a parameter of the call has matched: a bare placeholder binds the base of the argument, up
to the array-of that is written in the pattern, and any other dependent pattern is the argument up
to qualifiers. -/
theorem matches_of_matchParam (noExplicit : ctx.explicit = 0) {pattern arg : DataType}
    {position : Nat} (h : (ctx.matchParam pattern arg position).Succeeds bindings) :
    (∀ index kind, ctx.placeholder? pattern = some (index, kind) →
      ∃ value : DataType, { index, value := .type value } ∈ bindings ∧
        (value.add pattern.qualifiers).base = arg.base) ∧
      (ctx.placeholder? pattern = none → ctx.isDependent pattern →
        ctx.Matches bindings (.type pattern) (.type ⟨arg.typeHash, pattern.qualifiers⟩)) := by
  obtain ⟨found, finds⟩ := exists_finds_of_matchParam h.1
  have among : found ⊆ bindings := by
    have all := h.2
    rw [matchParam_of_finds finds position, kept_of_noExplicit noExplicit] at all
    exact all
  cases finds with
  | placeholder isOwn noArray =>
    refine ⟨fun _ _ isOwn' => ?_, fun notOwn => ?_⟩
    · cases isOwn'.symm.trans isOwn
      refine ⟨_, among List.mem_cons_self, ?_⟩
      simp_all [DataType.add, DataType.base, DataType.isArray, Qualifiers.union]
    · cases notOwn.symm.trans isOwn
  | arrayPlaceholder isOwn isArray argIsArray =>
    refine ⟨fun _ _ isOwn' => ?_, fun notOwn => ?_⟩
    · cases isOwn'.symm.trans isOwn
      refine ⟨_, among List.mem_cons_self, ?_⟩
      simp_all [DataType.add, DataType.base, DataType.isArray, Qualifiers.union, DataType.simple]
    · cases notOwn.symm.trans isOwn
  | parts notOwn dependent parts derives =>
    refine ⟨fun _ _ isOwn => ?_, fun _ _ => ?_⟩
    · cases isOwn.symm.trans notOwn
    · exact matches_of_parts notOwn dependent parts (matches_of_derives derives among)
  | independent notOwn independent =>
    refine ⟨fun _ _ isOwn => ?_, fun _ dependent => absurd dependent independent⟩
    cases isOwn.symm.trans notOwn

/-- Each argument has matched the pattern at its position. -/
theorem matchParam_of_matchParams {patterns args : List DataType} {position : Nat}
    (h : (ctx.matchParams position patterns args).Succeeds bindings) {i : Nat}
    {pattern arg : DataType} (atPattern : patterns[i]? = some pattern)
    (atArg : args[i]? = some arg) :
    ∃ position', (ctx.matchParam pattern arg position').Succeeds bindings := by
  induction patterns generalizing args position i with
  | nil => cases atPattern
  | cons first patterns ih =>
    cases args with
    | nil => cases atArg
    | cons firstArg args =>
      rw [matchParams, MatchResult.succeeds_andThen_iff] at h
      cases i with
      | zero =>
        cases atPattern
        cases atArg
        exact ⟨position, h.1⟩
      | succ i => exact ih h.2 atPattern atArg

end DeductionContext

/-! ## Merging -/

/-- An element goes if the next one is the same. -/
theorem eraseReps_cons_cons {α : Type} [DecidableEq α] (a b : α) (as : List α) :
    (a :: b :: as).eraseReps = if a = b then (b :: as).eraseReps else a :: (b :: as).eraseReps := by
  -- What the loop has kept so far stands in front of what it finds later.
  have inLoop (last : α) (rest kept : List α) :
      List.eraseRepsBy.loop (· == ·) last rest kept =
        kept.reverse ++ List.eraseRepsBy.loop (· == ·) last rest [] := by
    induction rest generalizing last kept with
    | nil => simp [List.eraseRepsBy.loop]
    | cons next rest ih =>
      rw [List.eraseRepsBy.loop, List.eraseRepsBy.loop]
      cases last == next with
      | true => exact ih last kept
      | false => simp [ih next (last :: kept), ih next [last]]
  simp only [List.eraseReps, List.eraseRepsBy, List.eraseRepsBy.loop]
  by_cases same : a = b
  · simp [same]
  · have differs : (a == b) = false := by simpa using same
    simp [same, differs, inLoop b as [a]]

/-- Only repetitions are erased. -/
theorem mem_eraseReps {α : Type} [DecidableEq α] {a : α} {as : List α} :
    a ∈ as.eraseReps ↔ a ∈ as := by
  induction as with
  | nil => rfl
  | cons first as ih =>
    cases as with
    | nil => rfl
    | cons second as =>
      rw [eraseReps_cons_cons]
      split
      · rename_i same
        rw [ih, same]
        simp
      · rw [List.mem_cons, ih]
        exact List.mem_cons.symm

theorem eraseReps_sublist {α : Type} [DecidableEq α] (as : List α) :
    as.eraseReps.Sublist as := by
  induction as with
  | nil => exact .slnil
  | cons first as ih =>
    cases as with
    | nil => exact .refl _
    | cons second as =>
      rw [eraseReps_cons_cons]
      split
      · exact ih.cons first
      · exact ih.cons_cons first

/-- Where no two neighbours bind one parameter, in order of the parameters, no two bindings do. -/
theorem pairwise_of_firstConflict?_eq_none {bindings : List Deduction}
    (sorted : bindings.Pairwise fun a b => a.index ≤ b.index)
    (none : firstConflict? bindings = none) :
    bindings.Pairwise fun a b => a.index < b.index := by
  have chain : bindings.IsChain fun a b => a.index < b.index := by
    induction bindings with
    | nil => exact .nil
    | cons a rest ih =>
      cases rest with
      | nil => exact .singleton a
      | cons b rest =>
        rw [firstConflict?] at none
        split at none
        · cases none
        · rename_i different
          have before : a.index ≤ b.index := List.rel_of_pairwise_cons sorted List.mem_cons_self
          exact .cons_cons (by omega) (ih sorted.tail none)
  have trans : IsTrans Deduction fun a b => a.index < b.index := ⟨fun _ _ _ => Nat.lt_trans⟩
  exact chain.pairwise

/-- The bindings in order of their parameters, those for one parameter as they were recorded. -/
def inOrder (bindings : List Deduction) : List Deduction :=
  bindings.mergeSort fun a b => a.index ≤ b.index

theorem index_le_trans (a b c : Deduction) (h : decide (a.index ≤ b.index))
    (h' : decide (b.index ≤ c.index)) : decide (a.index ≤ c.index) := by
  simp only [decide_eq_true_eq] at h h' ⊢
  omega

theorem index_le_total (a b : Deduction) :
    decide (a.index ≤ b.index) || decide (b.index ≤ a.index) := by
  simp only [Bool.or_eq_true, decide_eq_true_eq]
  omega

theorem sorted_inOrder (bindings : List Deduction) :
    (inOrder bindings).Pairwise fun a b => a.index ≤ b.index :=
  (List.pairwise_mergeSort index_le_trans index_le_total bindings).imp of_decide_eq_true

theorem mem_inOrder {bindings : List Deduction} {b : Deduction} :
    b ∈ inOrder bindings ↔ b ∈ bindings :=
  (List.mergeSort_perm bindings _).mem_iff

/-- Merged bindings are a look-up table for all bindings that were merged. -/
theorem find?_of_agglomerate {template : TypeHash} {bindings merged : List Deduction}
    (h : agglomerate template bindings = .ok merged) {b : Deduction} (member : b ∈ bindings) :
    (merged.find? fun d => d.index == b.index) = some b := by
  simp only [agglomerate] at h
  split at h
  · cases h
  · rename_i none
    cases h
    have strict := pairwise_of_firstConflict?_eq_none
      ((sorted_inOrder bindings).sublist (eraseReps_sublist _)) none
    have present : b ∈ (inOrder bindings).eraseReps := by
      rw [mem_eraseReps, mem_inOrder]
      exact member
    -- All that stand before it are for smaller indices, so the look-up passes them.
    obtain ⟨before, after, split⟩ := List.append_of_mem present
    rw [List.find?_eq_some_iff_append]
    refine ⟨by simp, before, after, split, fun a earlier => ?_⟩
    rw [split] at strict
    have less := (List.pairwise_append.mp strict).2.2 a earlier b List.mem_cons_self
    simp only [Bool.not_eq_true', beq_eq_false_iff_ne]
    omega

/-! ## Completion -/

namespace CompletionContext

variable {ctx : CompletionContext}

/-- A parameter without an explicit argument has the value that was deduced for it. -/
theorem completeFrom_deduced {deductions : List Deduction}
    {bound : List (TemplateParameter × TemplateArgument)} {params : List TemplateParameter}
    {arguments : List TemplateArgument}
    (h : ctx.completeFrom [] deductions bound params = .ok arguments) {i : Nat}
    (inside : i < params.length) {d : Deduction}
    (deduced : (deductions.find? fun d => d.index == bound.length + i) = some d) :
    arguments[bound.length + i]? = some d.value := by
  induction params generalizing bound i with
  | nil => cases inside
  | cons param params ih =>
    rw [completeFrom] at h
    cases value : ctx.valueFor [] deductions bound bound.length param with
    | error e => simp [value] at h
    | ok argument =>
      simp only [value] at h
      split at h
      · cases i with
        | zero =>
          -- This is the parameter, and what follows does not touch its value.
          obtain ⟨added, rfl, -⟩ := completeFrom_eq_ok h
          simp only [Nat.add_zero] at deduced
          simp only [valueFor, List.getElem?_nil, deduced] at value
          cases value
          simp
        | succ i =>
          have shifted : bound.length + (i + 1) = (bound ++ [(param, argument)]).length + i := by
            simp
            omega
          rw [shifted] at deduced ⊢
          exact ih h (by simpa using inside) deduced
      · cases h

theorem complete_deduced {deductions : List Deduction} {params : List TemplateParameter}
    {arguments : List TemplateArgument} (h : ctx.complete params [] deductions = .ok arguments)
    {i : Nat} (inside : i < params.length) {d : Deduction}
    (deduced : (deductions.find? fun d => d.index == i) = some d) :
    arguments[i]? = some d.value := by
  have counted : ctx.checkCount params [] = .ok () := by simp [checkCount]
  rw [complete, counted] at h
  have atPosition := @completeFrom_deduced ctx deductions [] params arguments h i inside d
  simp only [List.length_nil, Nat.zero_add] at atPosition
  exact atPosition deduced

end CompletionContext

/-- What a successful deduction comes down to: all arguments have matched with the same bindings,
and these are the values of the completed list. -/
theorem DeductionContext.exists_bindings_of_deduce {ctx : DeductionContext}
    {patterns args : List DataType} {deductions : List Deduction}
    (deduced : ctx.deduce patterns args = .ok deductions) {completion : CompletionContext}
    {params : List TemplateParameter} {arguments : List TemplateArgument}
    (completed : completion.complete params [] deductions = .ok arguments) :
    ∃ bindings, (ctx.matchParams 0 patterns args).Succeeds bindings ∧
      ∀ b ∈ bindings, b.index < params.length → arguments[b.index]? = some b.value := by
  simp only [deduce] at deduced
  split at deduced
  · cases deduced
  · rename_i succeeded
    refine ⟨_, ⟨succeeded, fun _ member => member⟩, fun b member inside => ?_⟩
    exact completion.complete_deduced completed inside (find?_of_agglomerate deduced member)

end ScriptSemantics
