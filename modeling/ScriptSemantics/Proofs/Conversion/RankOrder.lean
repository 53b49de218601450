import ScriptSemantics.Proofs.Conversion.Validity

/-!
# Comparison Refines Rank

Steps and conversions are ranked, and they are compared. The comparisons look at more than the rank:
at validity and the kind of route first, at inheritance, const and binding later. Still rank is
never overruled.

`RefinesRank` says what that means. For a comparison that is a total preorder, two points are enough
(`RefinesRank.of_better`): a strictly better rank wins, and everything that cannot be converted is
alike. The main statement is `comparisons_refine_rank`.
-/

namespace ScriptSemantics

/-- A total preorder that goes with the rank, and whose greatest elements are those that are not
possible. -/
structure RefinesRank {α : Type} (compare : α → α → Ordering) (rank : α → ConversionRank)
    (possible : α → Bool) : Prop where
  refl : ∀ a, compare a a = .eq
  /-- Less one way is greater the other way. -/
  turns : ∀ a b, compare a b = .lt ↔ compare b a = .gt
  trans : ∀ a b c, compare a b ≠ .gt → compare b c ≠ .gt → compare a c ≠ .gt
  better : ∀ a b, (rank a).compare (rank b) = .lt → compare a b = .lt
  notWorse : ∀ a b, compare a b = .lt → (rank a).compare (rank b) ≠ .gt
  greatest : ∀ a, possible a = false ↔ ∀ b, compare b a ≠ .gt

/-! ## Ranks -/

namespace ConversionRank

variable {a b : ConversionRank}

theorem compare_eq_lt_iff : a.compare b = .lt ↔ a.level < b.level := Nat.compare_eq_lt

theorem compare_eq_gt_iff : a.compare b = .gt ↔ b.level < a.level := Nat.compare_eq_gt

/-- No rank is worse than that of what cannot be converted, and every other one is better. -/
theorem level_lt_notConvertible_iff (a : ConversionRank) :
    a.level < notConvertible.level ↔ a ≠ notConvertible := by
  cases a <;> decide

/-- What is strictly better than something can be converted. -/
theorem ne_notConvertible_of_level_lt (h : a.level < b.level) : a ≠ notConvertible := by
  rintro rfl
  have worst : b.level ≤ notConvertible.level := by cases b <;> decide
  omega

end ConversionRank

/-! ## What a preorder needs -/

namespace RefinesRank

variable {α : Type} {compare : α → α → Ordering} {rank : α → ConversionRank} {possible : α → Bool}

theorem of_better [Std.TransCmp compare]
    (better : ∀ a b, (rank a).level < (rank b).level → compare a b = .lt)
    (alike : ∀ a b, rank a = .notConvertible → rank b = .notConvertible → compare a b = .eq)
    (ranked : ∀ a, possible a = false ↔ rank a = .notConvertible)
    (worst : ∃ a, possible a = false) : RefinesRank compare rank possible where
  refl _ := Std.ReflCmp.compare_self
  turns _ _ := Std.OrientedCmp.gt_iff_lt.symm
  trans a b c hab hbc := by
    simp only [ne_eq, Ordering.ne_gt_iff_isLE] at hab hbc ⊢
    exact Std.TransCmp.isLE_trans hab hbc
  better a b h := better a b (ConversionRank.compare_eq_lt_iff.mp h)
  notWorse a b less worse := by
    -- The other one has the better rank and would come first.
    have back := better b a (ConversionRank.compare_eq_gt_iff.mp worse)
    rw [Std.OrientedCmp.gt_iff_lt.mpr back] at less
    cases less
  greatest a := by
    rw [ranked]
    constructor
    · intro impossible b
      by_cases other : rank b = .notConvertible
      · rw [alike b a other impossible]
        decide
      · rw [better b a (impossible ▸ (rank b).level_lt_notConvertible_iff.mpr other)]
        decide
    · intro top
      obtain ⟨last, impossible⟩ := worst
      rw [ranked] at impossible
      by_contra convertible
      -- Whatever is not possible comes behind it.
      have ahead : compare a last = .lt :=
        better a last (impossible ▸ (rank a).level_lt_notConvertible_iff.mpr convertible)
      exact top last (Std.OrientedCmp.gt_iff_lt.mpr ahead)

end RefinesRank

/-! ## Steps and conversions -/

theorem ConversionStep.compare_of_better {x y : ConversionStep} (h : x.rank.level < y.rank.level) :
    x.compare y = .lt := by
  rw [compare, ConversionRank.compare_eq_lt_iff.mpr h]
  rfl

namespace StandardConversion

theorem isConvertible_eq_false_iff {c : StandardConversion} :
    c.isConvertible = false ↔ c.rank = .notConvertible := by
  simp [← rank_isViable, ConversionRank.isViable]

theorem compare_of_better {a b : StandardConversion} (h : a.rank.level < b.rank.level) :
    a.compare b = .lt := by
  cases a with
  | notConvertible => exact absurd rfl (ConversionRank.ne_notConvertible_of_level_lt h)
  | step x =>
    cases b with
    | notConvertible => rfl
    | step y => exact ConversionStep.compare_of_better h

theorem compare_of_impossible {a b : StandardConversion} (ha : a.rank = .notConvertible)
    (hb : b.rank = .notConvertible) : a.compare b = .eq := by
  rw [← isConvertible_eq_false_iff] at ha hb
  cases a with
  | step => cases ha
  | notConvertible =>
    cases b with
    | step => cases hb
    | notConvertible => rfl

end StandardConversion

namespace Conversion

variable {a b : Conversion}

theorem isValid_eq_false_iff : a.isValid = false ↔ a.rank = .notConvertible := by
  simp [isValid, ConversionRank.isViable]

/-- A valid conversion through a function has one rank only. -/
theorem rank_of_userDefined {before after : StandardConversion} {function : TypeHash}
    {source dest : DataType} (valid : (userDefined before function after source dest).isValid) :
    (userDefined before function after source dest).rank = .userDefined := by
  by_cases convertible : before.isConvertible && after.isConvertible
  · simp only [rank, userDefined, convertible, if_true]
  · simp [isValid, rank, userDefined, convertible, ConversionRank.isViable] at valid

theorem compare_of_better (h : a.rank.level < b.rank.level) : a.compare b = .lt := by
  have validA : a.isValid = true := by
    simpa [isValid, ConversionRank.isViable] using ConversionRank.ne_notConvertible_of_level_lt h
  cases validB : b.isValid with
  | false => simp only [compare, validA, validB]
  | true =>
    obtain ⟨routeA, sourceA, destA⟩ := a
    obtain ⟨routeB, sourceB, destB⟩ := b
    simp only [compare, validA, validB]
    cases routeA with
    | standard x =>
      cases routeB with
      | standard y => exact StandardConversion.compare_of_better h
      | userDefined => rfl
    | userDefined before function after =>
      -- Only invalid conversions have a worse rank, and the other one is valid.
      have rankA := rank_of_userDefined validA
      rw [userDefined] at rankA
      rw [rankA] at h
      have worse : (mk routeB sourceB destB).rank = .notConvertible := by
        cases rankB : (mk routeB sourceB destB).rank with
        | notConvertible => rfl
        | _ =>
          rw [rankB] at h
          exact absurd h (by decide)
      rw [isValid_eq_false_iff.mpr worse] at validB
      cases validB

theorem compare_of_invalid (ha : a.rank = .notConvertible) (hb : b.rank = .notConvertible) :
    a.compare b = .eq := by
  simp only [compare, isValid_eq_false_iff.mpr ha, isValid_eq_false_iff.mpr hb]

end Conversion

/-! ## The main statement -/

/-- Standard conversions, and all conversions, are compared by total preorders that refine rank; in
both of them the greatest elements are those that cannot be converted. -/
theorem comparisons_refine_rank :
    RefinesRank StandardConversion.compare StandardConversion.rank
        StandardConversion.isConvertible ∧
      RefinesRank Conversion.compare Conversion.rank Conversion.isValid := by
  constructor
  · refine .of_better (fun _ _ => StandardConversion.compare_of_better)
      (fun _ _ => StandardConversion.compare_of_impossible)
      (fun _ => StandardConversion.isConvertible_eq_false_iff) ?_
    exact ⟨.notConvertible, rfl⟩
  · refine .of_better (fun _ _ => Conversion.compare_of_better)
      (fun _ _ => Conversion.compare_of_invalid) (fun _ => Conversion.isValid_eq_false_iff) ?_
    exact ⟨.notConvertible .void .void, rfl⟩

/-- A copy and a temporary copy differ and are alike, so that the preorder is no order. -/
example : StandardConversion.exact ≠ StandardConversion.exact.withBinding (some .copyRef) ∧
    StandardConversion.exact.compare (StandardConversion.exact.withBinding (some .copyRef)) =
      .eq := by
  decide

end ScriptSemantics
