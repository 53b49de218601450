import Mathlib.Data.List.ProdSigma
import ScriptSemantics.Proofs.Template.Dependence

/-!
# Matching Without a Limit

Deduction gives up below a number of levels of nesting, because patterns and instances may lead back
to themselves. `Derives` has the rules of matching without that limit: a list of pairs is worked off
from the front, a pair that is settled leaves its bindings, and a pair of composed types is replaced
by the pairs of its components. A derivation is finite, however deep it goes.

1. What the search accepts has a derivation with the bindings of the search, less those for
   parameters that were given explicitly (`exists_derives_of_matchAll`).
2. What has a derivation is accepted at some depth (`exists_matchAll_of_derives`), and a deeper
   search accepts no less (`matchAll_mono`).
3. A match that needs many levels meets a new pair of registered types on each of them, so it needs
   no more than there are pairs (`le_pairs_of_needs`).

So the limit refuses nothing that matches. The main statement is `matchParam_of_finds` with its
converse `exists_finds_of_matchParam`.
-/

namespace ScriptSemantics

/-! ## Successful results -/

namespace MatchResult

/-- A sequence succeeds exactly if both parts do, with the bindings of both. -/
theorem andThen_eq_bindings_iff {first : MatchResult} {second : Unit → MatchResult}
    {bindings : List Deduction} :
    first.andThen second = { bindings } ↔
      ∃ before after, first = { bindings := before } ∧ second () = { bindings := after } ∧
        bindings = before ++ after := by
  obtain ⟨before, failure⟩ := first
  cases failure with
  | some e => simp [andThen]
  | none =>
    simp only [andThen, mk.injEq, and_true]
    rcases second () with ⟨after, failure⟩
    simp only [mk.injEq]
    constructor
    · rintro ⟨rfl, rfl⟩
      exact ⟨before, after, rfl, ⟨rfl, rfl⟩, rfl⟩
    · rintro ⟨_, _, rfl, ⟨rfl, rfl⟩, rfl⟩
      exact ⟨rfl, rfl⟩

theorem failure_andThen_iff {first : MatchResult} {second : Unit → MatchResult} :
    (first.andThen second).failure = none ↔ first.failure = none ∧ (second ()).failure = none := by
  unfold andThen
  split
  · rename_i e failed
    simp [failed]
  · rename_i accepted
    simp [accepted]

theorem eq_bindings_of_failure {result : MatchResult} (accepted : result.failure = none) :
    result = { bindings := result.bindings } := by
  obtain ⟨bindings, failure⟩ := result
  cases accepted
  rfl

end MatchResult

namespace DeductionContext

variable {ctx : DeductionContext} {position : Nat}

/-! ## Rules -/

/-- A pair that is matched at once: a placeholder of the template takes what the argument has on top
of the qualifiers of the pattern, and other parts stand for themselves. -/
inductive Settles (ctx : DeductionContext) :
    TemplateArgument → TemplateArgument → List Deduction → Prop where
  | type {pattern found : DataType} {index : Nat}
      (isOwn : ctx.placeholder? pattern = some (index, .type))
      (contains : found.qualifiers.contains pattern.qualifiers) :
      Settles ctx (.type pattern) (.type found)
        [⟨index, .type ⟨found.typeHash, found.qualifiers.diff pattern.qualifiers⟩⟩]
  | bool {pattern : DataType} {index : Nat} {value : Bool}
      (isOwn : ctx.placeholder? pattern = some (index, .bool)) :
      Settles ctx (.type pattern) (.bool value) [⟨index, .bool value⟩]
  | integer {pattern : DataType} {index : Nat} {value : Int64}
      (isOwn : ctx.placeholder? pattern = some (index, .integer)) :
      Settles ctx (.type pattern) (.integer value) [⟨index, .integer value⟩]
  | same {t : DataType} (notOwn : ctx.placeholder? t = none) (independent : ¬ctx.isDependent t) :
      Settles ctx (.type t) (.type t) []
  | value {a : TemplateArgument} (isValue : a.type? = none) : Settles ctx a a []

/-- A pair of types that is matched by its components. -/
structure Descends (ctx : DeductionContext) (pattern found : DataType) : Prop where
  notOwn : ctx.placeholder? pattern = none
  dependent : ctx.isDependent pattern
  sameQualifiers : found.qualifiers = pattern.qualifiers

/-- The pairs of components of two types: of a template-id and an instance of the same template, or
of two function types of the same arity. A type without components has none. -/
def parts? (ctx : DeductionContext) (pattern found : TypeHash) :
    Option (List (TemplateArgument × TemplateArgument)) :=
  match ctx.registry.type? pattern with
  | some (.pattern p) =>
    match ctx.registry.class? found with
    | some c =>
      if c.template = some p.template ∧ c.templateArgs.length = p.arguments.length then
        some (p.arguments.zip c.templateArgs)
      else none
    | none => none
  | some (.functionType f) =>
    match (ctx.registry.type? found).bind TypeDecl.functionType? with
    | some g =>
      if g.params.length = f.params.length then
        some (((f.returnType :: f.params).map .type).zip ((g.returnType :: g.params).map .type))
      else none
    | none => none
  | _ => some []

/-- The pairs match one after the other, with these bindings. -/
inductive Derives (ctx : DeductionContext) :
    List (TemplateArgument × TemplateArgument) → List Deduction → Prop where
  | nil : Derives ctx [] []
  | settle {expected actual : TemplateArgument} {bindings bindings' : List Deduction}
      {pairs : List (TemplateArgument × TemplateArgument)}
      (settles : ctx.Settles expected actual bindings) (rest : Derives ctx pairs bindings') :
      Derives ctx ((expected, actual) :: pairs) (bindings ++ bindings')
  | descend {pattern found : DataType} {bindings : List Deduction}
      {inner pairs : List (TemplateArgument × TemplateArgument)}
      (descends : ctx.Descends pattern found)
      (parts : ctx.parts? pattern.typeHash found.typeHash = some inner)
      (rest : Derives ctx (inner ++ pairs) bindings) :
      Derives ctx ((.type pattern, .type found) :: pairs) bindings

/-- An argument of a call matches its parameter, with these bindings. A bare placeholder takes the
base of the argument, qualifiers of the call are left open, and a pattern without placeholders takes
everything. -/
inductive Finds (ctx : DeductionContext) : DataType → DataType → List Deduction → Prop where
  | placeholder {pattern arg : DataType} {index : Nat}
      (isOwn : ctx.placeholder? pattern = some (index, .type)) (noArray : ¬pattern.isArray) :
      Finds ctx pattern arg [⟨index, .type arg.base⟩]
  | arrayPlaceholder {pattern arg : DataType} {index : Nat}
      (isOwn : ctx.placeholder? pattern = some (index, .type)) (isArray : pattern.isArray)
      (argIsArray : arg.isArray) : Finds ctx pattern arg [⟨index, .ofHash arg.typeHash⟩]
  | parts {pattern arg : DataType} {bindings : List Deduction}
      {inner : List (TemplateArgument × TemplateArgument)}
      (notOwn : ctx.placeholder? pattern = none) (dependent : ctx.isDependent pattern)
      (parts : ctx.parts? pattern.typeHash arg.typeHash = some inner)
      (derives : ctx.Derives inner bindings) : Finds ctx pattern arg bindings
  | independent {pattern arg : DataType} (notOwn : ctx.placeholder? pattern = none)
      (independent : ¬ctx.isDependent pattern) : Finds ctx pattern arg []

/-! ## The search by its rules -/

/-- The bindings that are kept: those for parameters that were not given explicitly. -/
def kept (ctx : DeductionContext) (bindings : List Deduction) : List Deduction :=
  bindings.filter fun b => ctx.explicit ≤ b.index

/-- Without explicit arguments every binding is kept. -/
theorem kept_of_noExplicit (noExplicit : ctx.explicit = 0) (bindings : List Deduction) :
    ctx.kept bindings = bindings := by
  simp [kept, noExplicit]

theorem record_eq (index : Nat) (value : TemplateArgument) :
    ctx.record index value = { bindings := ctx.kept [⟨index, value⟩] } := by
  unfold record kept
  split
  · rename_i given
    simp [MatchResult.trivial, given]
  · rename_i open_
    simp [MatchResult.bind, Nat.le_of_not_lt open_]

theorem matchStructure_eq (rule : TemplateArgument → TemplateArgument → MatchResult)
    (pattern arg : DataType) :
    ctx.matchStructure rule position pattern arg =
      match ctx.parts? pattern.typeHash arg.typeHash with
      | some inner => matchAll rule inner
      | none => ctx.mismatch position pattern arg := by
  unfold matchStructure parts?
  cases ctx.registry.type? pattern.typeHash with
  | none => rfl
  | some decl =>
    cases decl with
    | pattern p =>
      cases ctx.registry.class? arg.typeHash with
      | none => rfl
      | some c =>
        simp only
        split <;> rfl
    | functionType f =>
      cases (ctx.registry.type? arg.typeHash).bind TypeDecl.functionType? with
      | none => rfl
      | some g =>
        simp only
        split <;> rfl
    | fundamental _ | classType _ | enumType _ | closure _ | placeholder _ => rfl

theorem matchExact_of_settles {expected actual : TemplateArgument} {bindings : List Deduction}
    (settles : ctx.Settles expected actual bindings) (levels : Nat) :
    ctx.matchExact position (levels + 1) expected actual = { bindings := ctx.kept bindings } := by
  cases settles with
  | type isOwn contains => simp only [matchExact, isOwn, if_pos contains, record_eq]
  | bool isOwn => simp only [matchExact, isOwn, record_eq]
  | integer isOwn => simp only [matchExact, isOwn, record_eq]
  | same notOwn independent =>
    simp only [matchExact, notOwn, if_neg independent, if_true]
    rfl
  | value isValue =>
    cases expected with
    | type t => cases isValue
    | bool value | integer value =>
      simp only [matchExact, if_true]
      rfl

theorem matchExact_of_descends {pattern found : DataType} (descends : ctx.Descends pattern found)
    (levels : Nat) :
    ctx.matchExact position (levels + 1) (.type pattern) (.type found) =
      ctx.matchStructure (ctx.matchExact position levels) position pattern found := by
  obtain ⟨notOwn, dependent, sameQualifiers⟩ := descends
  simp only [matchExact, notOwn, if_pos dependent, sameQualifiers, ne_eq, not_true_eq_false,
    if_false]

/-- A pair that is accepted at some depth is settled or matched by its components. -/
theorem settles_or_descends {levels : Nat} {expected actual : TemplateArgument}
    (accepted : (ctx.matchExact position levels expected actual).failure = none) :
    (∃ bindings, ctx.Settles expected actual bindings) ∨
      ∃ pattern found, expected = .type pattern ∧ actual = .type found ∧
        ctx.Descends pattern found := by
  cases levels with
  | zero => cases accepted
  | succ levels =>
    cases expected with
    | type pattern =>
      simp only [matchExact] at accepted
      cases isOwn : ctx.placeholder? pattern with
      | some own =>
        -- A placeholder takes a type with its qualifiers, or a value of its own kind.
        obtain ⟨index, kind⟩ := own
        left
        simp only [isOwn] at accepted
        split at accepted
        · split at accepted
          · rename_i contains
            exact ⟨_, .type isOwn contains⟩
          · cases accepted
        · exact ⟨_, .bool isOwn⟩
        · exact ⟨_, .integer isOwn⟩
        · cases accepted
      | none =>
        -- Other types match types only: component by component, or if they are the same.
        simp only [isOwn] at accepted
        split at accepted
        · rename_i found
          split at accepted
          · rename_i dependent
            split at accepted
            · cases accepted
            · rename_i sameQualifiers
              exact .inr ⟨pattern, found, rfl, rfl, isOwn, dependent, not_not.mp sameQualifiers⟩
          · rename_i independent
            split at accepted
            · rename_i same
              cases same
              exact .inl ⟨_, .same isOwn independent⟩
            · cases accepted
        · cases accepted
    | bool value | integer value =>
      simp only [matchExact] at accepted
      split at accepted
      · rename_i same
        cases same
        exact .inl ⟨_, .value rfl⟩
      · cases accepted

/-! ## Derivations for what the search accepts -/

theorem matchAll_append (rule : TemplateArgument → TemplateArgument → MatchResult)
    (pairs pairs' : List (TemplateArgument × TemplateArgument)) {bindings : List Deduction} :
    matchAll rule (pairs ++ pairs') = { bindings } ↔
      ∃ before after, matchAll rule pairs = { bindings := before } ∧
        matchAll rule pairs' = { bindings := after } ∧ bindings = before ++ after := by
  induction pairs generalizing bindings with
  | nil =>
    rw [List.nil_append]
    constructor
    · intro accepted
      exact ⟨[], bindings, rfl, accepted, rfl⟩
    · rintro ⟨before, after, first, second, rfl⟩
      cases first
      exact second
  | cons pair pairs ih =>
    obtain ⟨expected, actual⟩ := pair
    rw [List.cons_append, matchAll, matchAll, MatchResult.andThen_eq_bindings_iff]
    constructor
    · -- What the first pair binds goes to the front of the first part.
      rintro ⟨first, rest, here, later, rfl⟩
      obtain ⟨before, after, accepted, accepted', rfl⟩ := ih.mp later
      refine ⟨first ++ before, after, ?_, accepted', (List.append_assoc ..).symm⟩
      exact MatchResult.andThen_eq_bindings_iff.mpr ⟨first, before, here, accepted, rfl⟩
    · rintro ⟨_, after, accepted, accepted', rfl⟩
      obtain ⟨first, before, here, later, rfl⟩ := MatchResult.andThen_eq_bindings_iff.mp accepted
      exact ⟨first, before ++ after, here, ih.mpr ⟨before, after, later, accepted', rfl⟩,
        List.append_assoc ..⟩

theorem Derives.append {pairs pairs' : List (TemplateArgument × TemplateArgument)}
    {bindings bindings' : List Deduction} (first : ctx.Derives pairs bindings)
    (second : ctx.Derives pairs' bindings') :
    ctx.Derives (pairs ++ pairs') (bindings ++ bindings') := by
  induction first with
  | nil => exact second
  | settle settles _ ih =>
    rw [List.cons_append, List.append_assoc]
    exact .settle settles ih
  | descend descends parts _ ih =>
    -- The components stand in front of all other pairs, also of those that are appended.
    rw [List.cons_append]
    exact .descend descends parts (by rwa [← List.append_assoc])

theorem kept_append (bindings bindings' : List Deduction) :
    ctx.kept (bindings ++ bindings') = ctx.kept bindings ++ ctx.kept bindings' :=
  List.filter_append ..

/-- A rule whose successes have derivations gives derivations of lists. -/
theorem exists_derives_of_rule {rule : TemplateArgument → TemplateArgument → MatchResult}
    (sound : ∀ expected actual found, rule expected actual = { bindings := found } →
      ∃ bindings, ctx.Derives [(expected, actual)] bindings ∧ found = ctx.kept bindings)
    {pairs : List (TemplateArgument × TemplateArgument)} {found : List Deduction}
    (accepted : matchAll rule pairs = { bindings := found }) :
    ∃ bindings, ctx.Derives pairs bindings ∧ found = ctx.kept bindings := by
  induction pairs generalizing found with
  | nil =>
    cases accepted
    exact ⟨[], .nil, rfl⟩
  | cons pair pairs ih =>
    obtain ⟨before, after, here, later, rfl⟩ := MatchResult.andThen_eq_bindings_iff.mp accepted
    obtain ⟨bindings, derives, rfl⟩ := sound _ _ _ here
    obtain ⟨bindings', derives', rfl⟩ := ih later
    exact ⟨_, derives.append derives', (kept_append ..).symm⟩

/-- By induction on how deep the search may go. -/
theorem exists_derives_of_matchExact {levels : Nat} {expected actual : TemplateArgument}
    {found : List Deduction}
    (accepted : ctx.matchExact position levels expected actual = { bindings := found }) :
    ∃ bindings, ctx.Derives [(expected, actual)] bindings ∧ found = ctx.kept bindings := by
  induction levels generalizing expected actual found with
  | zero => cases accepted
  | succ levels ih =>
    have noFailure : (ctx.matchExact position (levels + 1) expected actual).failure = none := by
      rw [accepted]
    rcases settles_or_descends noFailure with
      ⟨bindings, settles⟩ | ⟨pattern, type, rfl, rfl, descends⟩
    · rw [matchExact_of_settles settles] at accepted
      cases accepted
      exact ⟨_, .settle settles .nil, by rw [List.append_nil]⟩
    · rw [matchExact_of_descends descends, matchStructure_eq] at accepted
      split at accepted
      · rename_i inner parts
        obtain ⟨bindings, derives, rfl⟩ := exists_derives_of_rule (fun _ _ _ => ih) accepted
        exact ⟨bindings, .descend descends parts (by rwa [List.append_nil]), rfl⟩
      · cases accepted

theorem exists_derives_of_matchAll {levels : Nat}
    {pairs : List (TemplateArgument × TemplateArgument)} {found : List Deduction}
    (accepted : matchAll (ctx.matchExact position levels) pairs = { bindings := found }) :
    ∃ bindings, ctx.Derives pairs bindings ∧ found = ctx.kept bindings :=
  exists_derives_of_rule (fun _ _ _ => exists_derives_of_matchExact) accepted

/-! ## Depth for what has a derivation -/

theorem matchAll_imp {rule rule' : TemplateArgument → TemplateArgument → MatchResult}
    (imp : ∀ expected actual found, rule expected actual = { bindings := found } →
      rule' expected actual = { bindings := found })
    {pairs : List (TemplateArgument × TemplateArgument)} {found : List Deduction}
    (accepted : matchAll rule pairs = { bindings := found }) :
    matchAll rule' pairs = { bindings := found } := by
  induction pairs generalizing found with
  | nil => exact accepted
  | cons pair pairs ih =>
    obtain ⟨before, after, here, later, rfl⟩ := MatchResult.andThen_eq_bindings_iff.mp accepted
    exact MatchResult.andThen_eq_bindings_iff.mpr
      ⟨before, after, imp _ _ _ here, ih later, rfl⟩

theorem matchExact_mono {levels levels' : Nat} (deeper : levels ≤ levels')
    {expected actual : TemplateArgument} {found : List Deduction}
    (accepted : ctx.matchExact position levels expected actual = { bindings := found }) :
    ctx.matchExact position levels' expected actual = { bindings := found } := by
  induction levels generalizing levels' expected actual found with
  | zero => cases accepted
  | succ levels ih =>
    obtain ⟨levels', rfl⟩ : ∃ n, levels' = n + 1 := ⟨levels' - 1, by omega⟩
    have noFailure : (ctx.matchExact position (levels + 1) expected actual).failure = none := by
      rw [accepted]
    rcases settles_or_descends noFailure with
      ⟨bindings, settles⟩ | ⟨pattern, type, rfl, rfl, descends⟩
    · rw [matchExact_of_settles settles] at accepted ⊢
      exact accepted
    · rw [matchExact_of_descends descends, matchStructure_eq] at accepted ⊢
      cases parts : ctx.parts? pattern.typeHash type.typeHash with
      | none =>
        rw [parts] at accepted
        cases accepted
      | some inner =>
        rw [parts] at accepted
        exact matchAll_imp (fun _ _ _ => ih (by omega)) accepted

/-- A deeper search accepts no less, with the same bindings. -/
theorem matchAll_mono {levels levels' : Nat} (deeper : levels ≤ levels')
    {pairs : List (TemplateArgument × TemplateArgument)} {found : List Deduction}
    (accepted : matchAll (ctx.matchExact position levels) pairs = { bindings := found }) :
    matchAll (ctx.matchExact position levels') pairs = { bindings := found } :=
  matchAll_imp (fun _ _ _ => matchExact_mono deeper) accepted

/-- By induction on the derivation: a pair of composed types needs one level more than its
components. -/
theorem exists_matchAll_of_derives {pairs : List (TemplateArgument × TemplateArgument)}
    {bindings : List Deduction} (derives : ctx.Derives pairs bindings) (position : Nat) :
    ∃ levels, matchAll (ctx.matchExact position levels) pairs =
      { bindings := ctx.kept bindings } := by
  induction derives with
  | nil => exact ⟨0, rfl⟩
  | settle settles _ ih =>
    obtain ⟨levels, accepted⟩ := ih
    refine ⟨levels + 1, MatchResult.andThen_eq_bindings_iff.mpr ?_⟩
    exact ⟨_, _, matchExact_of_settles settles levels,
      matchAll_mono (Nat.le_succ levels) accepted, kept_append ..⟩
  | @descend pattern found bindings inner pairs descends parts _ ih =>
    -- The components are matched one level further down, and the rest on the level of the pair.
    obtain ⟨levels, accepted⟩ := ih
    obtain ⟨before, after, first, second, split⟩ := (matchAll_append ..).mp accepted
    refine ⟨levels + 1, MatchResult.andThen_eq_bindings_iff.mpr ⟨before, after, ?_, ?_, split⟩⟩
    · rw [matchExact_of_descends descends, matchStructure_eq, parts]
      exact first
    · exact matchAll_mono (Nat.le_succ levels) second

/-! ## How deep is enough -/

theorem failure_matchAll_iff {rule : TemplateArgument → TemplateArgument → MatchResult}
    {pairs : List (TemplateArgument × TemplateArgument)} :
    (matchAll rule pairs).failure = none ↔ ∀ pair ∈ pairs, (rule pair.1 pair.2).failure = none := by
  induction pairs with
  | nil => simp [matchAll, MatchResult.trivial]
  | cons pair pairs ih =>
    rw [matchAll, MatchResult.failure_andThen_iff, ih, List.forall_mem_cons]

/-- The components of two types are accepted within some levels. -/
def Accepts (ctx : DeductionContext) (position levels : Nat) (types : TypeHash × TypeHash) : Prop :=
  ∃ inner, ctx.parts? types.1 types.2 = some inner ∧
    (matchAll (ctx.matchExact position levels) inner).failure = none

theorem accepts_iff_of_descends {pattern found : DataType} (descends : ctx.Descends pattern found)
    {levels : Nat} :
    ctx.Accepts position levels (pattern.typeHash, found.typeHash) ↔
      (ctx.matchExact position (levels + 1) (.type pattern) (.type found)).failure = none := by
  rw [matchExact_of_descends descends, matchStructure_eq]
  constructor
  · rintro ⟨inner, parts, accepted⟩
    simp only [parts, accepted]
  · intro accepted
    split at accepted
    · rename_i inner parts
      exact ⟨inner, parts, accepted⟩
    · cases accepted

/-- The components are accepted within some levels, and not within fewer. -/
def Needs (ctx : DeductionContext) (position levels : Nat) (types : TypeHash × TypeHash) : Prop :=
  ctx.Accepts position levels types ∧ ∀ fewer < levels, ¬ctx.Accepts position fewer types

/-- Of types that need several levels, some components need one level less. -/
theorem exists_needs_of_succ {levels : Nat} {types : TypeHash × TypeHash}
    (needs : ctx.Needs position (levels + 2) types) :
    ∃ types', ctx.Needs position (levels + 1) types' := by
  obtain ⟨⟨inner, parts, accepted⟩, notFewer⟩ := needs
  rw [failure_matchAll_iff] at accepted
  -- A component that is not accepted one level above.
  obtain ⟨⟨expected, actual⟩, member, refused⟩ : ∃ pair ∈ inner,
      ¬(ctx.matchExact position (levels + 1) pair.1 pair.2).failure = none := by
    by_contra every
    push Not at every
    exact notFewer (levels + 1) (by omega) ⟨inner, parts, failure_matchAll_iff.mpr every⟩
  rcases settles_or_descends (accepted _ member) with
    ⟨bindings, settles⟩ | ⟨pattern, found, rfl, rfl, descends⟩
  · -- A pair that is matched at once needs no more than one level.
    rw [matchExact_of_settles settles] at refused
    exact absurd rfl refused
  · refine ⟨(pattern.typeHash, found.typeHash), ?_, fun fewer less accepts => refused ?_⟩
    · exact (accepts_iff_of_descends descends).mpr (accepted _ member)
    · have early := (accepts_iff_of_descends descends).mp accepts
      have later := matchExact_mono (show fewer + 1 ≤ levels + 1 by omega)
        (MatchResult.eq_bindings_of_failure early)
      simp only [later]

theorem exists_needs {levels : Nat} {types : TypeHash × TypeHash}
    (needs : ctx.Needs position levels types) {k : Nat} (inside : k < levels) :
    ∃ types', ctx.Needs position (k + 1) types' := by
  induction levels generalizing types with
  | zero => omega
  | succ levels ih =>
    rcases Nat.lt_or_eq_of_le (Nat.le_of_lt_succ inside) with less | rfl
    · obtain ⟨levels, rfl⟩ : ∃ n, levels = n + 1 := ⟨levels - 1, by omega⟩
      obtain ⟨types', needs'⟩ := exists_needs_of_succ needs
      exact ih needs' less
    · exact ⟨types, needs⟩

/-- Types that need a level have components, so that they are registered. -/
theorem mem_keys_of_needs {levels : Nat} {types : TypeHash × TypeHash}
    (needs : ctx.Needs position (levels + 1) types) :
    types ∈ ctx.registry.types.keys ×ˢ ctx.registry.types.keys := by
  obtain ⟨⟨inner, parts, -⟩, notFewer⟩ := needs
  -- Without components nothing is left to match, and no level is needed.
  have nonempty : inner ≠ [] := by
    rintro rfl
    exact notFewer 0 (by omega) ⟨[], parts, rfl⟩
  have registered : ∀ {hash : TypeHash} {decl : TypeDecl}, ctx.registry.type? hash = some decl →
      hash ∈ ctx.registry.types.keys :=
    fun known => List.mem_map_of_mem (Table.mem_entries_of_get? known)
  rw [List.mem_product]
  unfold parts? at parts
  split at parts
  · rename_i p isPattern
    split at parts
    · rename_i c isClass
      obtain ⟨decl, known, -⟩ := Option.bind_eq_some_iff.mp isClass
      exact ⟨registered isPattern, registered known⟩
    · cases parts
  · rename_i f isFunction
    split at parts
    · rename_i g isFunction'
      obtain ⟨decl, known, -⟩ := Option.bind_eq_some_iff.mp isFunction'
      exact ⟨registered isFunction, registered known⟩
    · cases parts
  · cases parts
    exact absurd rfl nonempty

/-- The levels needed are no more than there are pairs of types, because each number is needed by
another pair. -/
theorem le_pairs_of_needs {levels : Nat} {types : TypeHash × TypeHash}
    (needs : ctx.Needs position levels types) : levels ≤ ctx.pairs := by
  have needed : ∀ k < levels, ∃ types' ∈ ctx.registry.types.keys ×ˢ ctx.registry.types.keys,
      ctx.Needs position (k + 1) types' := by
    intro k inside
    obtain ⟨types', needs'⟩ := exists_needs needs inside
    exact ⟨types', mem_keys_of_needs needs', needs'⟩
  calc levels ≤ (ctx.registry.types.keys ×ˢ ctx.registry.types.keys).length :=
        @le_length_of_least _ (ctx.Accepts position) _ _ needed
    _ = ctx.pairs := by rw [List.length_product, Table.keys, List.length_map]; rfl

/-- Components that match at any depth are accepted by the search. -/
theorem matchAll_pairs_of_derives {pattern found : TypeHash} {bindings : List Deduction}
    {inner : List (TemplateArgument × TemplateArgument)}
    (parts : ctx.parts? pattern found = some inner) (derives : ctx.Derives inner bindings) :
    matchAll (ctx.matchExact position ctx.pairs) inner = { bindings := ctx.kept bindings } := by
  obtain ⟨levels, accepted⟩ := exists_matchAll_of_derives derives position
  -- The least depth at which they are accepted is within the limit.
  have exists_levels : ∃ levels, ctx.Accepts position levels (pattern, found) :=
    ⟨levels, inner, parts, by rw [accepted]⟩
  classical
  obtain ⟨inner', parts', least⟩ := Nat.find_spec exists_levels
  cases parts.symm.trans parts'
  have enough : Nat.find exists_levels ≤ ctx.pairs :=
    le_pairs_of_needs ⟨Nat.find_spec exists_levels, fun _ fewer => Nat.find_min exists_levels fewer⟩
  have within := matchAll_mono enough (MatchResult.eq_bindings_of_failure least)
  -- All depths that accept them give the same bindings.
  have deep := matchAll_mono (Nat.le_max_left levels ctx.pairs) accepted
  rw [matchAll_mono (Nat.le_max_right levels ctx.pairs) within] at deep
  rw [within, deep]

/-! ## Arguments of a call -/

/-- Whatever matches is accepted, with the bindings for parameters that are not given explicitly. -/
theorem matchParam_of_finds {pattern arg : DataType} {bindings : List Deduction}
    (finds : ctx.Finds pattern arg bindings) (position : Nat) :
    ctx.matchParam pattern arg position = { bindings := ctx.kept bindings } := by
  cases finds with
  | placeholder isOwn noArray => simp only [matchParam, isOwn, if_neg noArray, record_eq]
  | arrayPlaceholder isOwn isArray argIsArray =>
    simp only [matchParam, isOwn, if_pos isArray, if_pos argIsArray, record_eq]
  | parts notOwn dependent parts derives =>
    simp only [matchParam, notOwn, if_pos dependent, matchStructure_eq, parts]
    exact matchAll_pairs_of_derives parts derives
  | independent notOwn independent =>
    simp only [matchParam, notOwn, if_neg independent]
    rfl

/-- Whatever is accepted matches. -/
theorem exists_finds_of_matchParam {pattern arg : DataType} {position : Nat}
    (accepted : (ctx.matchParam pattern arg position).failure = none) :
    ∃ bindings, ctx.Finds pattern arg bindings := by
  unfold matchParam at accepted
  split at accepted
  · rename_i index isOwn
    split at accepted
    · rename_i isArray
      split at accepted
      · rename_i argIsArray
        exact ⟨_, .arrayPlaceholder isOwn isArray argIsArray⟩
      · cases accepted
    · rename_i noArray
      exact ⟨_, .placeholder isOwn noArray⟩
  · cases accepted
  · rename_i notOwn
    split at accepted
    · rename_i dependent
      rw [matchStructure_eq] at accepted
      split at accepted
      · rename_i inner parts
        obtain ⟨bindings, derives, -⟩ :=
          exists_derives_of_matchAll (MatchResult.eq_bindings_of_failure accepted)
        exact ⟨bindings, .parts notOwn dependent parts derives⟩
      · cases accepted
    · rename_i independent
      exact ⟨_, .independent notOwn independent⟩

end DeductionContext

end ScriptSemantics
