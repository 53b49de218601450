import ScriptSemantics.Proofs.Conversion.Comparison
import ScriptSemantics.Proofs.Overload.Evaluation
import ScriptSemantics.Registry.Builtins

/-!
# The Order on Parameters That an Argument Gives

Overloads compete argument by argument: one argument is taken into several parameters, and the
initializations are compared. Compared with one another at random, initializations are not even
preordered, since brace lists and values are judged by different standards. But all initializations
of one argument that are valid have one shape (`Argument.isStructured_into`), and one standard
applies to them. Invalid ones, whatever they hold, are alike and come last.

The main statement is `argument_preorders_parameters`.
-/

namespace ScriptSemantics

namespace Initialization

variable {a b c : Initialization}

theorem failure?_eq_none_of_isValid (valid : a.isValid) : a.failure? = none := by
  cases a with
  | failed => cases valid
  | converted | constructed => rfl

theorem compare_of_invalid (ha : a.isValid = false) (hb : b.isValid = false) :
    a.compare b = .eq := by
  simp only [compare, ha, hb]

theorem compare_of_valid_of_invalid (ha : a.isValid) (hb : b.isValid = false) :
    a.compare b = .lt := by
  simp only [compare, ha, hb]

/-- Nothing invalid is as good as something valid. -/
theorem isValid_of_isLE (le : (a.compare b).isLE) (hb : b.isValid) : a.isValid := by
  cases ha : a.isValid with
  | true => rfl
  | false =>
    simp only [compare, ha, hb] at le
    cases le

/-- The comparison is transitive where the valid ones among the three are of one shape. -/
theorem isLE_trans_of_shape {structured : Bool} (ha : a.isValid → a.isStructured = structured)
    (hb : b.isValid → b.isStructured = structured) (hc : c.isValid → c.isStructured = structured)
    (hab : (a.compare b).isLE) (hbc : (b.compare c).isLE) : (a.compare c).isLE := by
  cases validC : c.isValid with
  | false =>
    -- Everything is as good as something invalid.
    cases validA : a.isValid with
    | false => rw [compare_of_invalid validA validC]; rfl
    | true => rw [compare_of_valid_of_invalid validA validC]; rfl
  | true =>
    have validB := isValid_of_isLE hbc validC
    have validA := isValid_of_isLE hab validB
    rw [compare_of_shape (ha validA) (hb validB)] at hab
    rw [compare_of_shape (hb validB) (hc validC)] at hbc
    rw [compare_of_shape (ha validA) (hc validC)]
    exact Std.TransCmp.isLE_trans hab hbc

/-- It is not transitive in general. An empty construction is as good as any value of its rank, and
values of one rank are told apart by `const`. -/
example :
    let plain := converted .copy (.standard (.step {}) .void .void)
    let added := converted .copy (.standard (.step { addsConst := true }) .void .void)
    let empty := constructed .default .void none []
    added.compare empty = .eq ∧ empty.compare plain = .eq ∧ plain.compare added = .lt := by decide

end Initialization

namespace Argument

/-- The parameter that an argument fits better comes first. -/
def compareParams (r : Registry) (argument : Argument) (p q : DataType) : Ordering :=
  (argument.into r p).compare (argument.into r q)

instance (r : Registry) (argument : Argument) : Std.OrientedCmp (argument.compareParams r) where
  eq_swap {p q} := @Std.OrientedCmp.eq_swap _ Initialization.compare _ (argument.into r p)
    (argument.into r q)

instance (r : Registry) (argument : Argument) : Std.TransCmp (argument.compareParams r) where
  isLE_trans {p q t} hpq hqt := by
    have shape (param : DataType) (valid : (argument.into r param).isValid) :
        (argument.into r param).isStructured = argument.isBraceList :=
      isStructured_into (Initialization.failure?_eq_none_of_isValid valid)
    exact Initialization.isLE_trans_of_shape (shape p) (shape q) (shape t) hpq hqt

end Argument

/-- **An argument preorders the parameters.** The initializations of one argument, brace lists
included, compare reflexively, with opposite results on exchange, and transitively whether equals
count or not. Invalid ones are equal to one another and come after all valid ones. -/
theorem argument_preorders_parameters (r : Registry) (argument : Argument) :
    (∀ p, (argument.into r p).compare (argument.into r p) = .eq) ∧
      (∀ p q, (argument.into r q).compare (argument.into r p) =
        ((argument.into r p).compare (argument.into r q)).swap) ∧
      (∀ p q t, (argument.into r p).compare (argument.into r q) = .lt →
        (argument.into r q).compare (argument.into r t) = .lt →
        (argument.into r p).compare (argument.into r t) = .lt) ∧
      (∀ p q t, (argument.into r p).compare (argument.into r q) ≠ .gt →
        (argument.into r q).compare (argument.into r t) ≠ .gt →
        (argument.into r p).compare (argument.into r t) ≠ .gt) ∧
      (∀ p q, (argument.into r p).isValid = false → (argument.into r q).isValid = false →
        (argument.into r p).compare (argument.into r q) = .eq) ∧
      (∀ p q, (argument.into r p).isValid = true → (argument.into r q).isValid = false →
        (argument.into r p).compare (argument.into r q) = .lt) := by
  refine ⟨fun p => ?_, fun p q => ?_, fun p q t hpq hqt => ?_, fun p q t hpq hqt => ?_,
    fun p q => Initialization.compare_of_invalid,
    fun p q => Initialization.compare_of_valid_of_invalid⟩
  · exact @Std.ReflCmp.compare_self _ (argument.compareParams r) _ p
  · exact @Std.OrientedCmp.eq_swap _ (argument.compareParams r) _ q p
  · exact @Std.TransCmp.lt_trans _ (argument.compareParams r) _ p q t hpq hqt
  · rw [ne_eq, ← Ordering.isLE_iff_ne_gt] at hpq hqt ⊢
    exact @Std.TransCmp.isLE_trans _ (argument.compareParams r) _ p q t hpq hqt

/-- An `int` fits `int` better than `double`, and no class that is not there. -/
theorem argument_preorders_parameters_int :
    let init := (Argument.type (.ofKind .int)).into Registry.withBuiltins
    (init (.ofKind .int)).compare (init (.ofKind .double)) = .lt ∧
      (init (.ofKind .double)).compare (init (.simple ⟨1⟩)) = .lt ∧
      (init (.ofKind .int)).compare (init (.simple ⟨1⟩)) = .lt := by
  intro init
  obtain ⟨-, -, strict, -⟩ :=
    argument_preorders_parameters Registry.withBuiltins (.type (.ofKind .int))
  have first : (init (.ofKind .int)).compare (init (.ofKind .double)) = .lt := by decide +kernel
  have second : (init (.ofKind .double)).compare (init (.simple ⟨1⟩)) = .lt := by decide +kernel
  exact ⟨first, second, strict _ _ _ first second⟩

end ScriptSemantics
