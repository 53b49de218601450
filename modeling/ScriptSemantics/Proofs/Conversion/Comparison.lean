import Mathlib.Order.Compare
import ScriptSemantics.Initialization.Building

/-!
# Comparing Conversions and Initializations

Conversions are compared through four nested comparisons: ranks, steps, standard conversions and
conversions. Each of them is a total preorder (`Std.TransCmp`), a lexicographic one where several
criteria follow each other.

Initializations are compared by two different standards. Values compare by their conversions,
structured initializations by form and rank. Each standard is a total preorder of its own, but the
two do not fit together: a brace list beats every value, whatever the ranks are, and an empty list
competes with values by rank alone. So `Initialization.compare` is oriented throughout and
transitive only among initializations of one shape. The initializations of one argument are all of
one shape.
-/

namespace ScriptSemantics

/-! ## Ranks, steps and standard conversions -/

/-- Rank, inheritance, const and binding are compared one after the other. -/
theorem ConversionStep.compare_eq_compareLex :
    ConversionStep.compare =
      compareLex (compareOn fun s => s.rank.level) (compareLex (compareOn ConversionStep.depth)
        (compareLex (compareOn fun s => s.addsConst.toNat)
          (compareOn fun s => s.binding.preference))) := rfl

instance : Std.TransCmp ConversionStep.compare := by
  rw [ConversionStep.compare_eq_compareLex]
  infer_instance

namespace StandardConversion

instance : Std.OrientedCmp StandardConversion.compare where
  eq_swap {a b} := by
    cases a with
    | notConvertible => cases b <;> rfl
    | step x =>
      cases b with
      | notConvertible => rfl
      | step y => exact @Std.OrientedCmp.eq_swap _ ConversionStep.compare _ x y

instance : Std.TransCmp StandardConversion.compare where
  isLE_trans {a b c} hab hbc := by
    -- Impossible steps are all alike and come last.
    cases a with
    | notConvertible =>
      cases b with
      | notConvertible => exact hbc
      | step y => cases hab
    | step x =>
      cases c with
      | notConvertible => rfl
      | step z =>
        cases b with
        | notConvertible => cases hbc
        | step y => exact @Std.TransCmp.isLE_trans _ ConversionStep.compare _ x y z hab hbc

instance : Ord StandardConversion := ⟨StandardConversion.compare⟩

instance : Std.TransOrd StandardConversion :=
  inferInstanceAs (Std.TransCmp StandardConversion.compare)

end StandardConversion

/-! ## Conversions -/

namespace Conversion

/-- Standard conversions come first, then user-defined ones, then invalid ones. -/
def tier (c : Conversion) : Nat :=
  if c.isValid then (if c.isUserDefined then 1 else 0) else 2

/-- The step that decides between conversions of one tier. -/
def decisive (c : Conversion) : StandardConversion :=
  if c.isValid then
    match c.route with
    | .standard step => step
    | .userDefined _ _ after => after
  else .notConvertible

theorem compare_eq_compareLex :
    Conversion.compare = compareLex (compareOn tier) (compareOn decisive) := by
  funext a b
  obtain ⟨routeA, sourceA, destA⟩ := a
  obtain ⟨routeB, sourceB, destB⟩ := b
  simp only [compare, compareLex, compareOn, tier, decisive]
  -- Where one is invalid the tiers decide, or both are alike; else the routes say how to go on.
  cases isValid ⟨routeA, sourceA, destA⟩ <;> cases isValid ⟨routeB, sourceB, destB⟩
  · rfl
  · cases routeB <;> rfl
  · cases routeA <;> rfl
  · cases routeA <;> cases routeB <;> rfl

instance : Std.TransCmp Conversion.compare := by
  rw [compare_eq_compareLex]
  infer_instance

instance : Ord Conversion := ⟨Conversion.compare⟩

instance : Std.TransOrd Conversion := inferInstanceAs (Std.TransCmp Conversion.compare)

end Conversion

/-! ## Initializations -/

namespace Initialization

/-- Whether an initialization is built from parts, as from a brace list. -/
def isStructured : Initialization → Bool
  | constructed .. => true
  | _ => false

/-- The conversion of a value; a failure counts as an invalid one. -/
def carrier : Initialization → Conversion
  | converted _ conversion => conversion
  | _ => .notConvertible .void .void

/-- Lists come before an empty construction, then the form decides, then the rank. -/
def structuredCompare : Initialization → Initialization → Ordering :=
  compareLex (compareOn fun i => (!i.isList).toNat)
    (compareLex (compareOn formPreference) (compareOn fun i => i.rank.level))

instance : Std.TransCmp structuredCompare := by
  unfold structuredCompare
  infer_instance

variable {a b c : Initialization}

theorem compare_of_values (ha : a.isStructured = false) (hb : b.isStructured = false) :
    a.compare b = a.carrier.compare b.carrier := by
  -- Validity is looked at first on both sides, and a failure is an invalid conversion.
  cases a with
  | constructed => cases ha
  | failed =>
    cases b with
    | constructed => cases hb
    | failed => rfl
    | converted _ y =>
      simp only [compare, Conversion.compare, isValid, carrier]
      cases y.isValid <;> rfl
  | converted _ x =>
    cases b with
    | constructed => cases hb
    | failed =>
      simp only [compare, Conversion.compare, isValid, carrier]
      cases x.isValid <;> rfl
    | converted _ y =>
      simp only [compare, Conversion.compare, isValid, carrier]
      cases x.isValid <;> cases y.isValid <;> rfl

theorem compare_of_structured (ha : a.isStructured) (hb : b.isStructured) :
    a.compare b = structuredCompare a b := by
  cases a with
  | failed | converted => cases ha
  | constructed formA destA ctorA childrenA =>
    cases b with
    | failed | converted => cases hb
    | constructed formB destB ctorB childrenB =>
      simp only [compare, isValid, structuredCompare, compareLex, compareOn, isList]
      cases formA.isList <;> cases formB.isList <;> rfl

/-- The standard by which initializations of one shape are compared. -/
def shapedCompare (structured : Bool) : Initialization → Initialization → Ordering :=
  if structured then structuredCompare else compareOn carrier

instance (structured : Bool) : Std.TransCmp (shapedCompare structured) := by
  cases structured with
  | true => exact inferInstanceAs (Std.TransCmp structuredCompare)
  | false => exact inferInstanceAs (Std.TransCmp (compareOn carrier))

theorem compare_of_shape {structured : Bool} (ha : a.isStructured = structured)
    (hb : b.isStructured = structured) : a.compare b = shapedCompare structured a b := by
  cases structured with
  | false => exact compare_of_values ha hb
  | true => exact compare_of_structured ha hb

/-- The two shapes in competition: a list wins, and otherwise form and rank decide. -/
theorem compare_swap_of_mixed (ha : a.isStructured) (hb : b.isStructured = false) :
    a.compare b = (b.compare a).swap := by
  cases a with
  | failed | converted => cases ha
  | constructed form dest ctor children =>
    cases b with
    | constructed => cases hb
    | failed => rfl
    | converted manner y =>
      simp only [compare, isValid, isList]
      cases y.isValid with
      | false => rfl
      | true =>
        cases form.isList with
        | true => rfl
        | false =>
          exact @Std.OrientedCmp.eq_swap _ (compareLex (compareOn formPreference)
            (compareOn fun i => i.rank.level)) _ (constructed form dest ctor children)
            (converted manner y)

instance : Std.OrientedCmp Initialization.compare where
  eq_swap {a b} := by
    cases ha : a.isStructured <;> cases hb : b.isStructured
    · rw [compare_of_shape ha hb, compare_of_shape hb ha]
      exact Std.OrientedCmp.eq_swap
    · rw [compare_swap_of_mixed hb ha, Ordering.swap_swap]
    · exact compare_swap_of_mixed ha hb
    · rw [compare_of_shape ha hb, compare_of_shape hb ha]
      exact Std.OrientedCmp.eq_swap

end Initialization

end ScriptSemantics
