import Mathlib.Data.List.FinRange
import Mathlib.Data.List.Perm.Subperm
import Mathlib.Data.Nat.Find
import Mathlib.Logic.Relation
import ScriptSemantics.Template.Deduction

/-!
# What a Pattern Mentions

A type that is written with other types mentions what they mention. Deduction searches a pattern for
placeholders of its template and gives up below a number of levels, because types may lead back to
themselves. The number is enough: a shortest way to a placeholder meets no type twice, and all types
on it are registered. So the search finds a placeholder exactly if one occurs.

The main statement is `DeductionContext.isDependent_iff`.
-/

namespace ScriptSemantics

/-- If each number up to `n` is the least one that is enough for something in a list, the list has
at least `n` entries. -/
theorem le_length_of_least {α : Type} {enough : Nat → α → Prop} {all : List α} {n : Nat}
    (needed : ∀ k < n, ∃ a ∈ all, enough (k + 1) a ∧ ∀ fewer < k + 1, ¬enough fewer a) :
    n ≤ all.length := by
  choose part member isEnough notFewer using needed
  -- Two numbers cannot be the least for one thing.
  have injective : Function.Injective fun k : Fin n => part k k.isLt := by
    rintro ⟨i, hi⟩ ⟨j, hj⟩ same
    simp only at same
    rcases Nat.lt_trichotomy i j with less | equal | more
    · exact absurd (same ▸ isEnough i hi) (notFewer j hj (i + 1) (by omega))
    · exact Fin.ext equal
    · exact absurd (same ▸ isEnough j hj) (notFewer i hi (j + 1) (by omega))
  have inside : List.ofFn (fun k : Fin n => part k k.isLt) ⊆ all := by
    intro a listed
    obtain ⟨k, rfl⟩ := (List.mem_ofFn' _ _).mp listed
    exact member k k.isLt
  have counted := (List.subperm_of_subset (List.nodup_ofFn.mpr injective) inside).length_le
  rwa [List.length_ofFn] at counted

/-! ## Occurrence -/

/-- The types that a type is written with. -/
def TypeDecl.components : TypeDecl → List DataType
  | .pattern p => p.arguments.filterMap TemplateArgument.type?
  | .functionType f => f.returnType :: f.params
  | _ => []

namespace Registry

/-- The types that the type of an identity is written with. -/
def components (r : Registry) (hash : TypeHash) : List DataType :=
  match r.type? hash with
  | some decl => decl.components
  | none => []

/-- One type occurs in another: it is that type, or it occurs in a component of it. -/
def Occurs (r : Registry) : (whole part : TypeHash) → Prop :=
  Relation.ReflTransGen fun whole part => ∃ t ∈ r.components whole, t.typeHash = part

end Registry

namespace DeductionContext

variable {ctx : DeductionContext}

/-! ## The search for placeholders -/

/-- Qualifiers make no difference to what is a placeholder. -/
theorem placeholder?_congr {t t' : DataType} (same : t.typeHash = t'.typeHash) :
    ctx.placeholder? t = ctx.placeholder? t' := by
  rw [placeholder?, placeholder?, same]

/-- One level of the search: the type itself, then its components. -/
theorem mentions_succ (levels : Nat) (t : DataType) :
    ctx.mentions (levels + 1) t =
      ((ctx.placeholder? t).isSome ||
        (ctx.registry.components t.typeHash).any (ctx.mentions levels)) := by
  rw [mentions, placeholder?, Registry.components]
  cases ctx.registry.type? t.typeHash with
  | none => rfl
  | some decl =>
    cases decl with
    | placeholder p =>
      by_cases own : p.owner = ctx.template <;>
        simp [TypeDecl.placeholder?, TypeDecl.components, own]
    | pattern p =>
      simp only [TypeDecl.placeholder?, TypeDecl.components, Option.bind_some, Option.isSome_none,
        Bool.false_or, List.any_filterMap]
      congr 1
      funext a
      cases a <;> rfl
    | functionType f => simp [TypeDecl.placeholder?, TypeDecl.components]
    | fundamental _ | classType _ | enumType _ | closure _ => rfl

theorem mentions_congr {t t' : DataType} (same : t.typeHash = t'.typeHash) (levels : Nat) :
    ctx.mentions levels t = ctx.mentions levels t' := by
  cases levels with
  | zero => rfl
  | succ levels => rw [mentions_succ, mentions_succ, placeholder?_congr same, same]

theorem mentions_simple (levels : Nat) (t : DataType) :
    ctx.mentions levels (.simple t.typeHash) = ctx.mentions levels t :=
  mentions_congr (show (DataType.simple t.typeHash).typeHash = t.typeHash from rfl) levels

/-- A deeper search finds no less. -/
theorem mentions_mono {levels levels' : Nat} (h : levels ≤ levels') {t : DataType}
    (found : ctx.mentions levels t) : ctx.mentions levels' t := by
  induction levels generalizing t levels' with
  | zero => cases found
  | succ levels ih =>
    obtain ⟨levels', rfl⟩ : ∃ n, levels' = n + 1 := ⟨levels' - 1, by omega⟩
    rw [mentions_succ, Bool.or_eq_true, List.any_eq_true] at found ⊢
    rcases found with here | ⟨component, member, below⟩
    · exact .inl here
    · exact .inr ⟨component, member, ih (by omega) below⟩

/-- What is found occurs. -/
theorem occurs_of_mentions {levels : Nat} {t : DataType} (found : ctx.mentions levels t) :
    ∃ part, ctx.registry.Occurs t.typeHash part ∧ (ctx.placeholder? (.simple part)).isSome := by
  induction levels generalizing t with
  | zero => cases found
  | succ levels ih =>
    rw [mentions_succ, Bool.or_eq_true, List.any_eq_true] at found
    rcases found with here | ⟨component, member, below⟩
    · exact ⟨t.typeHash, .refl, here⟩
    · obtain ⟨part, occurs, isOwn⟩ := ih below
      exact ⟨part, .head ⟨component, member, rfl⟩ occurs, isOwn⟩

/-- What occurs is found, if the search goes deep enough. -/
theorem mentions_of_occurs {hash part : TypeHash} (occurs : ctx.registry.Occurs hash part)
    (isOwn : (ctx.placeholder? (.simple part)).isSome) :
    ∃ levels, ctx.mentions levels (.simple hash) := by
  induction occurs using Relation.ReflTransGen.head_induction_on with
  | refl => exact ⟨1, by rw [mentions_succ, isOwn]; rfl⟩
  | head step _ ih =>
    obtain ⟨component, member, same⟩ := step
    obtain ⟨levels, found⟩ := ih
    refine ⟨levels + 1, ?_⟩
    rw [mentions_succ, Bool.or_eq_true, List.any_eq_true]
    exact .inr ⟨component, member, (mentions_congr same levels).trans found⟩

/-! ## How deep is enough -/

/-- A type in which something is found is registered. -/
theorem mem_keys_of_mentions {levels : Nat} {hash : TypeHash}
    (found : ctx.mentions levels (.simple hash)) : hash ∈ ctx.registry.types.keys := by
  cases levels with
  | zero => cases found
  | succ levels =>
    cases known : ctx.registry.type? hash with
    | none =>
      rw [mentions_succ] at found
      simp [placeholder?, Registry.components, DataType.simple, known] at found
    | some decl => exact List.mem_map_of_mem (Table.mem_entries_of_get? known)

/-- Something is found in the type within some levels, and not within fewer. -/
def FoundAt (ctx : DeductionContext) (levels : Nat) (hash : TypeHash) : Prop :=
  ctx.mentions levels (.simple hash) ∧
    ∀ fewer < levels, ¬ctx.mentions fewer (.simple hash)

/-- On a shortest way each number of levels is needed by some type. -/
theorem exists_foundAt {levels : Nat} {hash : TypeHash} (found : ctx.FoundAt levels hash) {k : Nat}
    (positive : 0 < k) (atMost : k ≤ levels) : ∃ part, ctx.FoundAt k part := by
  induction levels generalizing hash with
  | zero => omega
  | succ levels ih =>
    rcases Nat.lt_or_eq_of_le atMost with less | rfl
    · obtain ⟨within, notWithin⟩ := found
      rw [mentions_succ, Bool.or_eq_true, List.any_eq_true] at within
      rcases within with here | ⟨component, member, below⟩
      · -- The type is a placeholder itself, so one level is enough for it.
        exact absurd (by rw [mentions_succ, here]; rfl) (notWithin 1 (by omega))
      · have below' : ctx.FoundAt levels component.typeHash := by
          refine ⟨(mentions_simple levels component).trans below, fun fewer less' found' => ?_⟩
          refine notWithin (fewer + 1) (by omega) ?_
          rw [mentions_succ, Bool.or_eq_true, List.any_eq_true]
          exact .inr ⟨component, member, (mentions_simple fewer component).symm.trans found'⟩
        exact ih below' (by omega)
    · exact ⟨hash, found⟩

/-- The levels needed are no more than there are types, because each number is needed by another
type. -/
theorem FoundAt.le_size {levels : Nat} {hash : TypeHash} (found : ctx.FoundAt levels hash) :
    levels ≤ ctx.registry.types.size := by
  have needed : ∀ k < levels, ∃ part ∈ ctx.registry.types.keys, ctx.FoundAt (k + 1) part := by
    intro k inside
    obtain ⟨part, foundPart⟩ := exists_foundAt found (Nat.succ_pos k) inside
    exact ⟨part, mem_keys_of_mentions foundPart.1, foundPart⟩
  calc levels ≤ ctx.registry.types.keys.length :=
        @le_length_of_least _ (fun levels hash => ctx.mentions levels (.simple hash)) _ _ needed
    _ = ctx.registry.types.size := List.length_map _

/-- **The search is complete**: a type counts as dependent exactly if a placeholder of the template
occurs in it. -/
theorem isDependent_iff {t : DataType} :
    ctx.isDependent t ↔
      ∃ part, ctx.registry.Occurs t.typeHash part ∧ (ctx.placeholder? (.simple part)).isSome := by
  refine ⟨occurs_of_mentions, ?_⟩
  rintro ⟨part, occurs, isOwn⟩
  have exists_levels := mentions_of_occurs occurs isOwn
  classical
  have found : ctx.FoundAt (Nat.find exists_levels) t.typeHash :=
    ⟨Nat.find_spec exists_levels, fun _ fewer => Nat.find_min exists_levels fewer⟩
  have enough : Nat.find exists_levels ≤ ctx.registry.types.size + 1 :=
    Nat.le_succ_of_le found.le_size
  rw [isDependent, ← mentions_simple]
  exact mentions_mono enough found.1

end DeductionContext

end ScriptSemantics
