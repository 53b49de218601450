import Mathlib.Data.Set.Finite.List
import Mathlib.Order.WellFounded
import ScriptSemantics.Proofs.Overload.Selection

/-!
# Dominance Has No Cycles

Dominance is not transitive. An object and an ordinary argument at one position compare by rank
alone, and the objects of members are not compared with static members at all, so a chain of
dominances can lose at its ends what it had in between.

It has no cycles all the same. The comparison that depends on what the candidates are stands at one
place, the lead: the object, or the first argument of an operator call. At all other positions every
candidate of a call holds an initialization of the same argument, and these are compared by a total
preorder. Along a cycle of dominances nothing can get better at those positions, so each dominance
is a strict improvement of the lead. Leads do not go round in a circle either: an object is bound as
an exact match, which no ordinary argument improves on, so ordinary arguments only follow on
objects, and among themselves objects as well as ordinary arguments are ordered.
-/

namespace ScriptSemantics

namespace Candidate

/-! ## The slots of a call -/

/-- The slots of a candidate correspond to the arguments of the call. Only the first one may hold
the object, which is then an exact match. -/
structure Aligned (mode : ImplicitObject) (arguments : List Argument) (c : Candidate) : Prop where
  length : c.slots.length = arguments.length
  slot : ∀ i x, c.slots[i]? = some x →
    (mode = .firstArgument ∧ i = 0 ∧ ∃ binding, x = .object binding ∧
        binding.rank = .exactMatch) ∨
      ∃ init argument, x = .argument init ∧ arguments[i]? = some argument ∧
        init.isStructured = argument.isBraceList

namespace Fits

variable {r : Registry} {mode : ImplicitObject} {f : FunctionDecl} {arguments : List Argument}
  {c : Candidate}

/-- Behind the object stands the initialization of the argument that is counted with it. -/
theorem shape_initialization (fits : Fits r mode f arguments c) {i : Nat} {init : Initialization}
    (found : c.initializations[i]? = some init) :
    ∃ argument, arguments[i + offset mode f]? = some argument ∧
      init.isStructured = argument.isBraceList := by
  obtain ⟨param, argument, -, hargument, rfl, succeeded⟩ := fits.initialization found
  exact ⟨argument, hargument, Argument.isStructured_into succeeded⟩

/-- A member that takes its object from the arguments has it in front. -/
theorem slots_of_leading (fits : Fits r mode f arguments c) (leading : offset mode f = 1) :
    ∃ binding, binding.rank = .exactMatch ∧
      c.slots = .object binding :: c.initializations.map .argument := by
  have covered := fits.covered
  have isLeading : mode = .firstArgument ∧ f.hasImplicitObject := by
    by_contra other
    rw [offset, if_neg other] at leading
    cases leading
  obtain ⟨rfl, member⟩ := isLeading
  cases arguments with
  | nil =>
    -- The object would not be covered.
    rw [leading] at covered
    cases covered
  | cons argument rest =>
    have object := fits.object
    rw [objectOf?, if_pos member, ImplicitObject.type?] at object
    refine ⟨_, (StandardConversion.direct_of_isReferenceBinding (fits.bound _ object)).exactMatch,
      ?_⟩
    rw [slots, fits.leading, leading, object]
    rfl

theorem slots_of_not_leading (fits : Fits r mode f arguments c) (behind : offset mode f = 0) :
    c.slots = c.initializations.map .argument := by
  rw [slots, fits.leading, behind]
  rfl

theorem aligned (fits : Fits r mode f arguments c) : Aligned mode arguments c := by
  have count := fits.length_initializations
  have shape := @fits.shape_initialization
  by_cases leading : mode = .firstArgument ∧ f.hasImplicitObject
  · have one : offset mode f = 1 := if_pos leading
    obtain ⟨binding, exactMatch, slots⟩ := fits.slots_of_leading one
    rw [one] at count shape
    -- The object is at position zero and counts as one argument, so all others move up by one.
    refine ⟨by simp [slots, count], fun i x found => ?_⟩
    rw [slots] at found
    cases i with
    | zero =>
      cases found
      exact .inl ⟨leading.1, rfl, binding, rfl, exactMatch⟩
    | succ i =>
      rw [List.getElem?_cons_succ, List.getElem?_map, Option.map_eq_some_iff] at found
      obtain ⟨init, found, rfl⟩ := found
      obtain ⟨argument, hargument, same⟩ := shape found
      exact .inr ⟨init, argument, rfl, hargument, same⟩
  · have zero : offset mode f = 0 := if_neg leading
    have slots := fits.slots_of_not_leading zero
    rw [zero] at count shape
    refine ⟨by simp [slots, ← count], fun i x found => ?_⟩
    rw [slots, List.getElem?_map, Option.map_eq_some_iff] at found
    obtain ⟨init, found, rfl⟩ := found
    obtain ⟨argument, hargument, same⟩ := shape found
    exact .inr ⟨init, argument, rfl, hargument, same⟩

end Fits

/-! ## The order of leads -/

/-- One lead is strictly better than another: objects come before ordinary arguments, and those of
one kind and shape are compared. -/
inductive Slot.Ahead : Slot → Slot → Prop
  | objects {x y : StandardConversion} (lt : x.compare y = .lt) : Ahead (.object x) (.object y)
  | mixed (x : StandardConversion) (y : Initialization) : Ahead (.object x) (.argument y)
  | arguments {x y : Initialization} (shape : x.isStructured = y.isStructured)
      (lt : x.compare y = .lt) : Ahead (.argument x) (.argument y)

theorem Slot.Ahead.trans {x y z : Slot} (h : Ahead x y) (h' : Ahead y z) : Ahead x z := by
  cases h with
  | objects lt =>
    cases h' with
    | objects lt' =>
      exact .objects (@Std.TransCmp.lt_trans _ StandardConversion.compare _ _ _ _ lt lt')
    | mixed => exact .mixed _ _
  | mixed =>
    -- Behind an ordinary argument there are ordinary arguments only.
    cases h' with
    | arguments => exact .mixed _ _
  | arguments shape lt =>
    cases h' with
    | arguments shape' lt' =>
      rw [Initialization.compare_of_shape shape rfl] at lt
      rw [Initialization.compare_of_shape rfl shape'.symm] at lt'
      refine .arguments (shape.trans shape') ?_
      rw [Initialization.compare_of_shape shape shape'.symm]
      exact Std.TransCmp.lt_trans lt lt'

theorem Slot.Ahead.irrefl (x : Slot) : ¬Ahead x x := by
  intro h
  cases h with
  | objects lt =>
    rw [@Std.ReflCmp.compare_self _ StandardConversion.compare] at lt
    cases lt
  | arguments _ lt =>
    rw [@Std.ReflCmp.compare_self _ Initialization.compare] at lt
    cases lt

/-- What the object, or the first argument of an operator call, is bound by. -/
def lead (mode : ImplicitObject) (c : Candidate) : Option Slot :=
  match mode with
  | .none => none
  | .provided _ => c.object.map .object
  | .firstArgument => c.slots[0]?

/-- Both candidates have a lead, and that of the first is strictly better. -/
def LeadAhead (mode : ImplicitObject) (a b : Candidate) : Prop :=
  ∃ x y, lead mode a = some x ∧ lead mode b = some y ∧ x.Ahead y

/-- The first position behind the lead. -/
def behindLead (mode : ImplicitObject) : Nat := if mode = .firstArgument then 1 else 0

/-- At least as good at every position behind the lead. -/
def RestNotWorse (mode : ImplicitObject) (a b : Candidate) : Prop :=
  ∀ i x y, behindLead mode ≤ i → a.slots[i]? = some x → b.slots[i]? = some y → x.compare y ≠ .gt

variable {mode : ImplicitObject} {arguments : List Argument} {a b c : Candidate}

theorem LeadAhead.trans (h : LeadAhead mode a b) (h' : LeadAhead mode b c) :
    LeadAhead mode a c := by
  obtain ⟨x, y, hx, hy, xy⟩ := h
  obtain ⟨y', z, hy', hz, yz⟩ := h'
  obtain rfl : y = y' := Option.some.inj (hy.symm.trans hy')
  exact ⟨x, z, hx, hz, xy.trans yz⟩

theorem LeadAhead.irrefl (mode : ImplicitObject) (c : Candidate) : ¬LeadAhead mode c c := by
  rintro ⟨x, y, hx, hy, ahead⟩
  obtain rfl : x = y := Option.some.inj (hx.symm.trans hy)
  exact Slot.Ahead.irrefl x ahead

theorem RestNotWorse.refl (mode : ImplicitObject) (c : Candidate) : RestNotWorse mode c c := by
  intro i x y _ hx hy gt
  obtain rfl : x = y := Option.some.inj (hx.symm.trans hy)
  rw [@Std.ReflCmp.compare_self _ Slot.compare] at gt
  cases gt

/-- Behind the lead there are ordinary arguments only. -/
theorem Aligned.argument (aligned : Aligned mode arguments a) {i : Nat} {x : Slot}
    (behind : behindLead mode ≤ i) (found : a.slots[i]? = some x) :
    ∃ init argument, x = .argument init ∧ arguments[i]? = some argument ∧
      init.isStructured = argument.isBraceList := by
  rcases aligned.slot i x found with ⟨rfl, rfl, -⟩ | ordinary
  · cases behind
  · exact ordinary

/-- Behind the lead the candidates of one call are compared by a total preorder. -/
theorem RestNotWorse.trans (ha : Aligned mode arguments a) (hb : Aligned mode arguments b)
    (hc : Aligned mode arguments c) (h : RestNotWorse mode a b) (h' : RestNotWorse mode b c) :
    RestNotWorse mode a c := by
  intro i x z behind hx hz
  -- The candidate in the middle has a slot there too.
  obtain ⟨y, hy⟩ : ∃ y, b.slots[i]? = some y := by
    obtain ⟨bound, -⟩ := List.getElem?_eq_some_iff.mp hx
    rw [ha.length, ← hb.length] at bound
    exact ⟨_, List.getElem?_eq_getElem bound⟩
  have xy := h i x y behind hx hy
  have yz := h' i y z behind hy hz
  obtain ⟨x, argument, rfl, harg, shapeX⟩ := ha.argument behind hx
  obtain ⟨y, argument', rfl, harg', shapeY⟩ := hb.argument behind hy
  obtain ⟨z, argument'', rfl, harg'', shapeZ⟩ := hc.argument behind hz
  obtain rfl : argument = argument' := Option.some.inj (harg.symm.trans harg')
  obtain rfl : argument = argument'' := Option.some.inj (harg.symm.trans harg'')
  simp only [Slot.compare, ne_eq, ← Ordering.isLE_iff_ne_gt,
    Initialization.compare_of_shape shapeX shapeY,
    Initialization.compare_of_shape shapeY shapeZ,
    Initialization.compare_of_shape shapeX shapeZ] at xy yz ⊢
  exact Std.TransCmp.isLE_trans xy yz

/-! ## Acyclicity -/

/-- A slot that is strictly better in front has a better lead: an ordinary argument is never
strictly better than an object. -/
theorem Aligned.ahead (ha : Aligned .firstArgument arguments a)
    (hb : Aligned .firstArgument arguments b) {x y : Slot} (hx : a.slots[0]? = some x)
    (hy : b.slots[0]? = some y) (lt : x.compare y = .lt) : x.Ahead y := by
  rcases ha.slot 0 x hx with ⟨-, -, bindingX, rfl, -⟩ | ⟨initX, argument, rfl, harg, shapeX⟩
  · rcases hb.slot 0 y hy with ⟨-, -, bindingY, rfl, -⟩ | ⟨initY, -, rfl, -⟩
    · exact .objects lt
    · exact .mixed _ _
  · rcases hb.slot 0 y hy with ⟨-, -, bindingY, rfl, best⟩ | ⟨initY, argument', rfl, harg', shapeY⟩
    · -- The object is an exact match, and no rank is better.
      simp only [Slot.compare, Slot.rank, best, ConversionRank.compare, ConversionRank.level] at lt
      exact absurd (Nat.compare_eq_lt.mp lt) (Nat.not_lt_zero _)
    · obtain rfl : argument = argument' := Option.some.inj (harg.symm.trans harg')
      exact .arguments (shapeX.trans shapeY.symm) lt

/-- A dominance is nowhere a loss behind the lead, and it is an improvement there or of the lead. -/
theorem Dominates.lexicographic (ha : Aligned mode arguments a) (hb : Aligned mode arguments b)
    (h : Dominates mode a b) :
    RestNotWorse mode a b ∧ (RestNotWorse mode b a → LeadAhead mode a b) := by
  refine ⟨fun i x y _ hx hy => h.notWorse _ (.position hx hy), fun back => ?_⟩
  -- Where is the strict improvement?
  have better := h.better
  generalize lt : Ordering.lt = order at better
  cases better with
  | object hx hy => exact ⟨_, _, by simp [lead, hx], by simp [lead, hy], .objects lt.symm⟩
  | @position _ _ _ i x y hx hy =>
    by_cases behind : behindLead mode ≤ i
    · -- There it would be a loss on the way back.
      have gt : y.compare x = .gt := Std.OrientedCmp.gt_iff_lt.mpr lt.symm
      exact absurd gt (back i y x behind hy hx)
    · obtain ⟨rfl, rfl⟩ : mode = .firstArgument ∧ i = 0 := by
        unfold behindLead at behind
        split at behind
        · exact ⟨‹_›, by omega⟩
        · omega
      exact ⟨x, y, hx, hy, ha.ahead hb hx hy lt.symm⟩

/-- First by what stands behind the lead, then by the lead: a strict order on the candidates of one
call, which contains dominance. -/
structure Precedes (mode : ImplicitObject) (arguments : List Argument) (a b : Candidate) :
    Prop where
  left : Aligned mode arguments a
  right : Aligned mode arguments b
  rest : RestNotWorse mode a b
  lead : RestNotWorse mode b a → LeadAhead mode a b

theorem Precedes.irrefl (mode : ImplicitObject) (arguments : List Argument) (c : Candidate) :
    ¬Precedes mode arguments c c :=
  fun h => LeadAhead.irrefl mode c (h.lead (.refl mode c))

theorem Precedes.trans (h : Precedes mode arguments a b) (h' : Precedes mode arguments b c) :
    Precedes mode arguments a c where
  left := h.left
  right := h'.right
  rest := .trans h.left h.right h'.right h.rest h'.rest
  lead back := by
    -- If the way back is no loss as a whole, it is none in its parts.
    have fromB : RestNotWorse mode b a := .trans h.right h'.right h.left h'.rest back
    have fromC : RestNotWorse mode c b := .trans h'.right h.left h.right back h.rest
    exact (h.lead fromB).trans (h'.lead fromC)

end Candidate

/-! ## The candidates of a call -/

namespace Resolution

open Candidate

variable {r : Registry} {mode : ImplicitObject} {candidates : List TypeHash}
  {arguments : Arguments}

theorem aligned_of_mem_viable {c : Candidate} (h : c ∈ viable r mode candidates arguments) :
    Aligned mode arguments.toList c := by
  obtain ⟨hash, -, isViable⟩ := mem_viable.mp h
  obtain ⟨f, -, fits⟩ := evaluate_eq_ok isViable
  exact fits.aligned

/-- One viable candidate of a call dominates another. -/
def DominatesIn (viable : List Candidate) (mode : ImplicitObject) (a b : Candidate) : Prop :=
  a ∈ viable ∧ b ∈ viable ∧ Dominates mode a b

theorem precedes_of_dominatesIn {a b : Candidate}
    (h : DominatesIn (viable r mode candidates arguments) mode a b) :
    Precedes mode arguments.toList a b := by
  obtain ⟨ha, hb, dominates⟩ := h
  have left := aligned_of_mem_viable ha
  have right := aligned_of_mem_viable hb
  obtain ⟨rest, lead⟩ := dominates.lexicographic left right
  exact ⟨left, right, rest, lead⟩

theorem precedes_of_transGen {a b : Candidate}
    (h : Relation.TransGen (DominatesIn (viable r mode candidates arguments) mode) a b) :
    Precedes mode arguments.toList a b := by
  induction h with
  | single step => exact precedes_of_dominatesIn step
  | tail _ step ih => exact ih.trans (precedes_of_dominatesIn step)

/-- Finitely many candidates under a strict order: every collection of them has a first one. -/
theorem wellFounded_precedes (r : Registry) (mode : ImplicitObject) (candidates : List TypeHash)
    (arguments : Arguments) :
    WellFounded fun a b : { c // c ∈ viable r mode candidates arguments } =>
      Precedes mode arguments.toList a.1 b.1 := by
  let Viable := { c // c ∈ viable r mode candidates arguments }
  let before (a b : Viable) : Prop := Precedes mode arguments.toList a.1 b.1
  have : Finite Viable := (viable r mode candidates arguments).finite_toSet
  have : IsTrans Viable before := ⟨fun _ _ _ h h' => h.trans h'⟩
  have : Std.Irrefl before := ⟨fun c => Precedes.irrefl _ _ c.1⟩
  exact Finite.wellFounded_of_trans_of_irrefl before

/-- Where there are viable candidates, one of them is unbeaten. -/
theorem unbeaten_ne_nil (h : viable r mode candidates arguments ≠ []) :
    unbeaten mode (viable r mode candidates arguments) ≠ [] := by
  obtain ⟨c, hc⟩ := List.exists_mem_of_ne_nil _ h
  obtain ⟨⟨first, hfirst⟩, -, least⟩ := (wellFounded_precedes r mode candidates arguments).has_min
    Set.univ ⟨⟨c, hc⟩, trivial⟩
  refine List.ne_nil_of_mem (a := first) (mem_unbeaten.mpr ⟨hfirst, ?_⟩)
  intro d hd dominates
  exact least ⟨d, hd⟩ trivial (precedes_of_dominatesIn ⟨hd, hfirst, dominates⟩)

/-- An overload of the class in `staggered` as a candidate for a `char` argument. -/
def overloadOf (function : TypeHash) (object : Option StandardConversion) (numeric : NumericStep)
    (param : FundamentalKind) : Candidate where
  function := function
  object := object
  initializations :=
    [.converted .copy (.standard (.ofNumeric numeric) (.ofKind .char) (.ofKind param))]

/-- The const member beats the static one on the argument, and that beats the mutable member on the
argument, but the mutable member has the better object. -/
theorem dominance_not_transitive :
    ∃ (candidates : List TypeHash) (arguments : Arguments) (mode : ImplicitObject)
      (a b c : Candidate),
      DominatesIn (viable staggered mode candidates arguments) mode a b ∧
        DominatesIn (viable staggered mode candidates arguments) mode b c ∧
        ¬Dominates mode a c := by
  let const := overloadOf ⟨11⟩ (some (.step { addsConst := true, binding := .reference })) .exact
    .char
  let static := overloadOf ⟨12⟩ none (.promotion .integral) .int
  let mutable := overloadOf ⟨13⟩ (some .directBinding) (.conversion .boolean) .bool
  let mode := ImplicitObject.provided (.simple ⟨1⟩)
  let arguments := Arguments.types [.ofKind .char]
  have all : viable staggered mode [⟨11⟩, ⟨12⟩, ⟨13⟩] arguments = [const, static, mutable] := by
    cbv
  refine ⟨[⟨11⟩, ⟨12⟩, ⟨13⟩], arguments, mode, const, static, mutable, ?_, ?_, ?_⟩
  · exact ⟨by simp [all], by simp [all], dominates_iff.mp (by cbv)⟩
  · exact ⟨by simp [all], by simp [all], dominates_iff.mp (by cbv)⟩
  · rw [← dominates_iff, Bool.not_eq_true]
    cbv

/-- **Dominance has no cycles** among the viable candidates of a call, so one of them is unbeaten
wherever there are any, although dominance is not transitive. -/
theorem dominance_acyclic :
    (∀ (r : Registry) (mode : ImplicitObject) (candidates : List TypeHash) (arguments : Arguments),
      (∀ c, ¬Relation.TransGen (DominatesIn (viable r mode candidates arguments) mode) c c) ∧
        (unbeaten mode (viable r mode candidates arguments) = [] →
          viable r mode candidates arguments = [])) ∧
      ∃ (r : Registry) (mode : ImplicitObject) (candidates : List TypeHash) (arguments : Arguments)
        (a b c : Candidate),
        DominatesIn (viable r mode candidates arguments) mode a b ∧
          DominatesIn (viable r mode candidates arguments) mode b c ∧ ¬Dominates mode a c := by
  refine ⟨fun r mode candidates arguments => ⟨fun c cycle => ?_, fun none => ?_⟩, ?_⟩
  · exact Precedes.irrefl _ _ c (precedes_of_transGen cycle)
  · by_contra someViable
    exact unbeaten_ne_nil someViable none
  · obtain ⟨candidates, arguments, mode, a, b, c, chain⟩ := dominance_not_transitive
    exact ⟨staggered, mode, candidates, arguments, a, b, c, chain⟩

end Resolution

end ScriptSemantics
