import Mathlib.Tactic.TFAE
import ScriptSemantics.Proofs.Initialization.Narrowing

/-!
# Coherent Initializations

Whether an initialization is valid can be read off in five ways: it says so itself, it has a rank,
it has a category, it carries no failure, and it is accepted as a result. These are five functions
on a tree, and on an arbitrary tree they differ. A conversion may be invalid without a failure, and
a construction counts as valid whatever its parts are.

The trees that initialization builds are *coherent*: their conversions are valid, and their
constructions are made of parts that have not failed. On coherent trees the five ways agree,
validity passes down to every part, and the rank of a tree is the worst rank among the conversions
at its leaves. The main statement is `produced_coherent`.
-/

namespace ScriptSemantics

namespace ConversionRank

/-- Ranks are told apart by their levels. -/
theorem level_injective : Function.Injective level := by
  intro a b same
  cases a <;> cases b <;> first | rfl | cases same

theorem max_eq_notConvertible_iff {a b : ConversionRank} :
    a.max b = .notConvertible ↔ a = .notConvertible ∨ b = .notConvertible := by
  cases a <;> cases b <;> decide

/-- The worst rank of some conversions: no conversion is worse, and one of them has this rank,
unless there are none and it is an exact match. -/
structure IsWorst (among : Conversion → Prop) (rank : ConversionRank) : Prop where
  bound : ∀ c, among c → c.rank.level ≤ rank.level
  attained : (∃ c, among c ∧ c.rank = rank) ∨ (rank = .exactMatch ∧ ∀ c, ¬among c)

theorem isWorst_none {among : Conversion → Prop} (none : ∀ c, ¬among c) :
    IsWorst among .exactMatch :=
  ⟨fun c member => absurd member (none c), .inr ⟨rfl, none⟩⟩

theorem isWorst_single (c : Conversion) : IsWorst (· = c) c.rank :=
  ⟨fun d same => Nat.le_of_eq (by rw [same]), .inl ⟨c, rfl, rfl⟩⟩

/-- The worst rank of two collections taken together. -/
theorem IsWorst.union {p q : Conversion → Prop} {a b : ConversionRank} (left : IsWorst p a)
    (right : IsWorst q b) : IsWorst (fun c => p c ∨ q c) (a.max b) := by
  unfold ConversionRank.max
  split
  · rename_i better
    refine ⟨?_, ?_⟩
    · rintro c (member | member)
      · exact Nat.le_trans (left.bound c member) better
      · exact right.bound c member
    · rcases right.attained with ⟨c, member, rank⟩ | ⟨rfl, empty⟩
      · exact .inl ⟨c, .inr member, rank⟩
      · -- Nothing on the right, so what is on the left is an exact match as well.
        have exact : a = .exactMatch := level_injective (Nat.le_zero.1 better)
        rcases left.attained with ⟨c, member, rank⟩ | ⟨-, empty'⟩
        · exact .inl ⟨c, .inl member, rank.trans exact⟩
        · exact .inr ⟨rfl, fun c member => member.elim (empty' c) (empty c)⟩
  · rename_i worse
    refine ⟨?_, ?_⟩
    · rintro c (member | member)
      · exact left.bound c member
      · exact Nat.le_trans (right.bound c member) (Nat.le_of_not_le worse)
    · rcases left.attained with ⟨c, member, rank⟩ | ⟨rfl, -⟩
      · exact .inl ⟨c, .inl member, rank⟩
      · exact absurd (Nat.zero_le _) worse

end ConversionRank

namespace Initialization

/-! ## Coherent trees -/

/-- Conversions are valid, and constructions are made of parts that have not failed. -/
inductive Coherent : Initialization → Prop
  | failed (failure : InitFailure) : Coherent (.failed failure)
  | converted (manner : ValueManner) {conversion : Conversion} (valid : conversion.isValid) :
      Coherent (.converted manner conversion)
  | constructed (form : ConstructionForm) (dest : DataType) (constructor : Option TypeHash)
      {children : List Initialization} (succeeded : ∀ child ∈ children, child.failure? = none)
      (coherent : ∀ child ∈ children, Coherent child) :
      Coherent (.constructed form dest constructor children)

/-- The conversion stands at a leaf of the tree. -/
def Carries (init : Initialization) (c : Conversion) : Prop :=
  ∃ manner, Occurs (.converted manner c) init

theorem carries_converted_iff {manner : ValueManner} {c d : Conversion} :
    (converted manner c).Carries d ↔ d = c := by
  constructor
  · rintro ⟨manner', occurs⟩
    cases occurs with
    | here => rfl
    | inside member => cases member
  · rintro rfl
    exact ⟨manner, .here _⟩

theorem carries_constructed_iff {form : ConstructionForm} {dest : DataType}
    {constructor : Option TypeHash} {children : List Initialization} {c : Conversion} :
    (constructed form dest constructor children).Carries c ↔
      ∃ child ∈ children, child.Carries c := by
  constructor
  · rintro ⟨manner, occurs⟩
    cases occurs with
    | inside member occurs => exact ⟨_, member, manner, occurs⟩
  · rintro ⟨child, member, manner, occurs⟩
    exact ⟨manner, .inside member occurs⟩

/-- If the rank of each part is the worst one at its leaves, so is the worst rank of the parts. -/
theorem isWorst_worstRank {children : List Initialization}
    (parts : ∀ child ∈ children, ConversionRank.IsWorst child.Carries child.rank) :
    ConversionRank.IsWorst (fun c => ∃ child ∈ children, child.Carries c)
      (worstRank children) := by
  induction children with
  | nil =>
    rw [worstRank]
    exact ConversionRank.isWorst_none (by simp)
  | cons child children ih =>
    rw [worstRank]
    have first := parts child List.mem_cons_self
    have others := ih fun other member => parts other (List.mem_cons_of_mem _ member)
    simpa only [List.mem_cons, exists_eq_or_imp] using first.union others

theorem worstRank_eq_notConvertible_iff {children : List Initialization} :
    worstRank children = .notConvertible ↔ ∃ child ∈ children, child.rank = .notConvertible := by
  induction children with
  | nil => simp [worstRank]
  | cons child children ih =>
    simp only [worstRank, ConversionRank.max_eq_notConvertible_iff, ih, List.mem_cons,
      exists_eq_or_imp]

namespace Coherent

variable {init part : Initialization}

theorem isValid_iff_failure? (coherent : init.Coherent) :
    init.isValid ↔ init.failure? = none := by
  cases coherent with
  | failed => simp [isValid, failure?]
  | converted _ valid => simp [isValid, failure?, valid]
  | constructed => simp [isValid, failure?]

theorem isValid_iff_category (coherent : init.Coherent) :
    init.isValid ↔ init.category ≠ .invalid := by
  cases coherent with
  | failed => simp [isValid, category]
  | converted manner valid => cases manner <;> simp [isValid, category, ValueManner.category, valid]
  | constructed form => cases form <;> simp [isValid, category, ConstructionForm.category]

theorem isValid_iff_invalidity? (coherent : init.Coherent) :
    init.isValid ↔ init.invalidity? = none := by
  cases coherent with
  | failed => simp [isValid, invalidity?]
  | converted _ valid => simp [isValid, invalidity?, valid]
  | constructed => simp [isValid, invalidity?]

theorem isValid_iff_rank (coherent : init.Coherent) :
    init.isValid ↔ init.rank ≠ .notConvertible := by
  induction coherent with
  | failed => simp [isValid, rank]
  | converted _ valid => simp_all [isValid, rank, Conversion.isValid, ConversionRank.isViable]
  | constructed form dest constructor succeeded coherent ih =>
    -- A construction is valid, and none of its parts can drag its rank down.
    refine ⟨fun _ impossible => ?_, fun _ => rfl⟩
    rw [rank, worstRank_eq_notConvertible_iff] at impossible
    obtain ⟨child, member, unranked⟩ := impossible
    have valid := (coherent child member).isValid_iff_failure?.2 (succeeded child member)
    exact (ih child member).1 valid unranked

/-- Validity passes down to every part. -/
theorem isValid_of_occurs (coherent : init.Coherent) (valid : init.isValid)
    (occurs : Occurs part init) : part.isValid := by
  induction coherent with
  | failed => cases valid
  | converted _ isValid =>
    cases occurs with
    | here => exact valid
    | inside member => cases member
  | constructed form dest constructor succeeded coherent ih =>
    cases occurs with
    | here => exact valid
    | inside member occurs =>
      exact ih _ member
        ((coherent _ member).isValid_iff_failure?.2 (succeeded _ member)) occurs

/-- The rank of a valid tree is the worst one at its leaves. -/
theorem isWorst_rank (coherent : init.Coherent) (valid : init.isValid) :
    ConversionRank.IsWorst init.Carries init.rank := by
  induction coherent with
  | failed => cases valid
  | @converted manner c _ =>
    have only : (Initialization.converted manner c).Carries = (· = c) :=
      funext fun _ => propext carries_converted_iff
    rw [only, rank]
    exact ConversionRank.isWorst_single c
  | @constructed form dest constructor children succeeded coherent ih =>
    have below := isWorst_worstRank fun child member =>
      ih child member ((coherent child member).isValid_iff_failure?.2 (succeeded child member))
    have leaves : (Initialization.constructed form dest constructor children).Carries =
        fun c => ∃ child ∈ children, child.Carries c :=
      funext fun _ => propext carries_constructed_iff
    rw [leaves, rank]
    exact below

end Coherent

/-! ## The trees that are built -/

variable {r : Registry}

/-- Without an initializer there are no parts, and no conversion. -/
theorem coherent_default (r : Registry) (dest : DataType) : (default r dest).Coherent := by
  have shape := failedOrStructured_default r dest
  have parts := children_default r dest
  cases h : default r dest with
  | failed failure => exact .failed failure
  | converted =>
    rw [h] at shape
    cases shape rfl
  | constructed form target constructor children =>
    rw [h] at parts
    cases parts
    exact .constructed form target constructor (by simp) (by simp)

theorem coherent_ofType (noNull : r.type? .null = none) (dest source : DataType)
    (style : InitStyle) : (ofType r dest source style).Coherent := by
  rcases ofType_cases r dest source style with ⟨failure, h⟩ | ⟨manner, c, target, h, found⟩
  · rw [h]
    exact .failed failure
  · rw [h]
    exact .converted manner (Conversion.isValid_of_tryCompute noNull found)

/-- By recursion on the expression: the parts of a list are built from its elements, and none of
them has failed. -/
theorem coherent_ofExpression (noNull : r.type? .null = none) (e : Expression) (dest : DataType) :
    (ofExpression r e dest).Coherent := by
  cases e with
  | literal t | named t | call _ t | lambda t =>
    rw [ofExpression]
    exact coherent_ofType noNull _ _ _
  | list es =>
    have noConversion := conversion?_ofList r dest (elementsOf r es)
    rw [← ofExpression] at noConversion
    cases h : ofExpression r (.list es) dest with
    | failed failure => exact .failed failure
    | converted =>
      rw [h] at noConversion
      cases noConversion
    | constructed form target constructor children =>
      have passed : ∀ child ∈ children, child.failure? = none ∧ child.Coherent := by
        intro child member
        have isChild : child ∈ (ofExpression r (.list es) dest).children := by
          rw [h]
          exact member
        obtain ⟨_, inner, innerDest, same, isElement, rfl, succeeded, -⟩ :=
          passed_of_mem_children isChild
        cases same
        exact ⟨succeeded, coherent_ofExpression noNull inner innerDest⟩
      exact .constructed form target constructor (fun child member => (passed child member).1)
        fun child member => (passed child member).2
termination_by e
decreasing_by
  have smaller := List.sizeOf_lt_of_mem isElement
  simp only [Expression.list.sizeOf_spec]
  omega

/-- The initializations that a program comes by. -/
inductive Produced (r : Registry) : Initialization → Prop
  | default (dest : DataType) : Produced r (default r dest)
  | ofType (dest source : DataType) (style : InitStyle) : Produced r (ofType r dest source style)
  | ofExpression (e : Expression) (dest : DataType) : Produced r (ofExpression r e dest)

theorem Produced.coherent (noNull : r.type? .null = none) {init : Initialization}
    (produced : Produced r init) : init.Coherent := by
  cases produced with
  | default dest => exact coherent_default r dest
  | ofType dest source style => exact coherent_ofType noNull dest source style
  | ofExpression e dest => exact coherent_ofExpression noNull e dest

/-- **Coherence**: for an initialization that was produced in whatever way it is one and the same to
be valid, to have a rank, to have a category, to carry no failure and to be accepted. If it is
valid, so is everything in its tree, and its rank is the worst rank of the conversions at its
leaves. -/
theorem produced_coherent (noNull : r.type? .null = none) {init : Initialization}
    (produced : Produced r init) :
    List.TFAE [init.isValid = true, init.rank ≠ .notConvertible, init.category ≠ .invalid,
        init.failure? = none, init.invalidity? = none] ∧
      (init.isValid → (∀ part, Occurs part init → part.isValid) ∧
        ConversionRank.IsWorst init.Carries init.rank) := by
  have coherent := produced.coherent noNull
  refine ⟨?_, fun valid => ⟨fun part => coherent.isValid_of_occurs valid,
    coherent.isWorst_rank valid⟩⟩
  tfae_have 1 ↔ 2 := coherent.isValid_iff_rank
  tfae_have 1 ↔ 3 := coherent.isValid_iff_category
  tfae_have 1 ↔ 4 := coherent.isValid_iff_failure?
  tfae_have 1 ↔ 5 := coherent.isValid_iff_invalidity?
  tfae_finish

/-- The nested list of points is valid down to the coordinate that comes from a cast, and that one
is the worst of its leaves. -/
theorem produced_coherent_points :
    points.type? .null = none ∧
      Produced points (ofExpression points (.list nestedPoints) pointListClass.dataType) ∧
      (converted .copy castCoordinate).isValid ∧
      (ofExpression points (.list nestedPoints) pointListClass.dataType).rank = .userDefined ∧
      ConversionRank.IsWorst
        (ofExpression points (.list nestedPoints) pointListClass.dataType).Carries
        .userDefined := by
  have noNull : points.type? .null = none := rfl
  have produced := Produced.ofExpression (r := points) (.list nestedPoints) pointListClass.dataType
  have valid : (ofExpression points (.list nestedPoints) pointListClass.dataType).isValid := rfl
  have rank : (ofExpression points (.list nestedPoints) pointListClass.dataType).rank =
      .userDefined := rfl
  obtain ⟨parts, worst⟩ := (produced_coherent noNull produced).2 valid
  have occurs : Occurs (.converted .copy castCoordinate)
      (ofExpression points (.list nestedPoints) pointListClass.dataType) := by
    rw [ofExpression_nestedPoints]
    apply Occurs.inside (List.mem_singleton_self _)
    apply Occurs.inside (List.mem_cons_of_mem _ (List.mem_singleton_self _))
    exact .here _
  rw [rank] at worst
  exact ⟨noNull, produced, parts _ occurs, rank, worst⟩

end Initialization

end ScriptSemantics
