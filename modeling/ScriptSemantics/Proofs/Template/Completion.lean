import Mathlib.Data.List.Forall2
import ScriptSemantics.Template.Completion

/-!
# Completed Argument Lists

A completed list has one argument of the right kind for each parameter, and every such list is
complete as it stands: it completes to itself whatever is registered or deduced. Lists that were
completed once are therefore keys that mean the same later on.

The values are those that were given explicitly, deduced, or set by default, in this order of
preference. A default may name a parameter further to the front, whose value it then takes over.
-/

namespace ScriptSemantics

/-- One argument of the right kind for each parameter. -/
def FillsParameters (params : List TemplateParameter) (arguments : List TemplateArgument) : Prop :=
  List.Forall₂ (fun argument param => argument.kind = param.kind) arguments params

namespace CompletionContext

variable {ctx : CompletionContext} {deductions : List Deduction}

/-- What is added to the bound parameters fills the parameters that are left. -/
theorem completeFrom_eq_ok {explicit : List TemplateArgument}
    {bound : List (TemplateParameter × TemplateArgument)} {params : List TemplateParameter}
    {arguments : List TemplateArgument}
    (h : ctx.completeFrom explicit deductions bound params = .ok arguments) :
    ∃ added, arguments = bound.map Prod.snd ++ added ∧ FillsParameters params added := by
  induction params generalizing bound with
  | nil =>
    cases h
    exact ⟨[], by simp, .nil⟩
  | cons param params ih =>
    rw [completeFrom] at h
    cases value : ctx.valueFor explicit deductions bound bound.length param with
    | error e => simp [value] at h
    | ok argument =>
      simp only [value] at h
      split at h
      · rename_i kind
        obtain ⟨added, rfl, filled⟩ := ih h
        exact ⟨argument :: added, by simp, .cons kind filled⟩
      · cases h

/-- Explicit arguments that fill the parameters are taken as they are. -/
theorem completeFrom_explicit {bound : List (TemplateParameter × TemplateArgument)}
    {params : List TemplateParameter} {added : List TemplateArgument}
    (filled : FillsParameters params added) :
    ctx.completeFrom (bound.map Prod.snd ++ added) deductions bound params =
      .ok (bound.map Prod.snd ++ added) := by
  induction filled generalizing bound with
  | nil => simp [completeFrom]
  | @cons argument param added params kind _ ih =>
    -- The argument behind the bound ones is the explicit one of this position.
    have value : ctx.valueFor (bound.map Prod.snd ++ argument :: added) deductions bound
        bound.length param = .ok argument := by
      simp [valueFor]
    have rest := @ih (bound ++ [(param, argument)])
    simp only [List.map_append, List.map_cons, List.map_nil, List.append_assoc,
      List.singleton_append] at rest
    rw [completeFrom, value]
    simp only [if_pos kind, rest]

/-- The count was checked, and the parameters were completed from the first one on. -/
theorem complete_eq_ok {params : List TemplateParameter} {explicit arguments}
    (h : ctx.complete params explicit deductions = .ok arguments) :
    explicit.length ≤ params.length ∧
      ctx.completeFrom explicit deductions [] params = .ok arguments := by
  rw [complete, checkCount] at h
  split at h
  · cases h
  · rename_i enough
    exact ⟨Nat.le_of_not_lt enough, h⟩

/-- A completed list fills the parameters of the template. -/
theorem fills_of_complete {params : List TemplateParameter} {explicit arguments}
    (h : ctx.complete params explicit deductions = .ok arguments) :
    FillsParameters params arguments := by
  obtain ⟨added, rfl, filled⟩ := completeFrom_eq_ok (complete_eq_ok h).2
  exact filled

/-- A list that fills the parameters completes to itself. -/
theorem complete_of_fills {params : List TemplateParameter} {arguments : List TemplateArgument}
    (filled : FillsParameters params arguments) :
    ctx.complete params arguments deductions = .ok arguments := by
  have length : arguments.length = params.length := filled.length_eq
  have counted : ctx.checkCount params arguments = .ok () := by
    simp [checkCount, length]
  rw [complete, counted]
  exact @completeFrom_explicit ctx deductions [] params arguments filled

/-! ## Where the values come from -/

/-- Each position takes the value that is settled for it once the positions before it are bound. -/
theorem valueFor_of_completeFrom {explicit : List TemplateArgument}
    {bound : List (TemplateParameter × TemplateArgument)} {params : List TemplateParameter}
    {added : List TemplateArgument}
    (h : ctx.completeFrom explicit deductions bound params = .ok (bound.map Prod.snd ++ added))
    {i : Nat} {param : TemplateParameter} (here : params[i]? = some param) :
    ∃ value, added[i]? = some value ∧
      ctx.valueFor explicit deductions (bound ++ (params.zip added).take i) (bound.length + i)
        param = .ok value := by
  induction params generalizing bound added i with
  | nil => simp at here
  | cons first params ih =>
    rw [completeFrom] at h
    cases settled : ctx.valueFor explicit deductions bound bound.length first with
    | error e => simp [settled] at h
    | ok value =>
      simp only [settled] at h
      split at h
      · obtain ⟨rest, split, -⟩ := completeFrom_eq_ok h
        obtain rfl : added = value :: rest := by simpa using split
        cases i with
        | zero =>
          obtain rfl : first = param := by simpa using here
          exact ⟨value, by simp, by simpa using settled⟩
        | succ i =>
          -- The bound positions grow by the first one, which the list keeps in front.
          have later := @ih (bound ++ [(first, value)]) rest (by simpa using h) i
            (by simpa using here)
          simpa [Nat.add_assoc, Nat.add_comm 1] using later
      · cases h

theorem valueFor_of_complete {params : List TemplateParameter}
    {explicit arguments : List TemplateArgument}
    (h : ctx.complete params explicit deductions = .ok arguments) {i : Nat}
    {param : TemplateParameter} (here : params[i]? = some param) :
    ∃ value, arguments[i]? = some value ∧
      ctx.valueFor explicit deductions ((params.zip arguments).take i) i param = .ok value := by
  have fromFirst := @valueFor_of_completeFrom ctx deductions explicit [] params arguments
    (complete_eq_ok h).2 i param here
  simpa using fromFirst

/-- Among bound parameters, a default that names one of them stands for the value of the first one
of that name. -/
theorem resolveDefault_of_findIdx? {params : List TemplateParameter}
    {arguments : List TemplateArgument} (enough : params.length ≤ arguments.length) {name : String}
    {j : Nat} (first : params.findIdx? (fun param => param.name == name) = some j) (index : Nat) :
    ∃ value, arguments[j]? = some value ∧
      ctx.resolveDefault (params.zip arguments) index (.named name) = .ok value := by
  induction params generalizing arguments j with
  | nil => simp at first
  | cons param params ih =>
    cases arguments with
    | nil => simp at enough
    | cons argument arguments =>
      rw [List.findIdx?_cons] at first
      cases hit : param.name == name with
      | true =>
        simp only [hit, if_true, Option.some.injEq] at first
        subst first
        exact ⟨argument, rfl, by simp [resolveDefault, hit]⟩
      | false =>
        simp only [hit, Bool.false_eq_true, if_false, Option.map_eq_some_iff] at first
        obtain ⟨k, later, rfl⟩ := first
        have skipped : ctx.resolveDefault ((param :: params).zip (argument :: arguments)) index
            (.named name) = ctx.resolveDefault (params.zip arguments) index (.named name) := by
          simp [resolveDefault, hit]
        rw [skipped]
        exact ih (Nat.le_of_succ_le_succ enough) later

end CompletionContext

/-- What a completed list owes to the explicit arguments, to the deductions, and to the defaults
that name a parameter. -/
structure Honours (params : List TemplateParameter) (explicit : List TemplateArgument)
    (deductions : List Deduction) (arguments : List TemplateArgument) : Prop where
  fills : FillsParameters params arguments
  begins : explicit <+: arguments
  /-- The first deduction for a position counts, unless there is an explicit argument. -/
  deduced : ∀ i d, explicit.length ≤ i → i < params.length →
    deductions.find? (fun d => d.index == i) = some d → arguments[i]? = some d.value
  /-- A default that names a parameter before it stands for the value of the first such one. -/
  inherited : ∀ i j param name, explicit.length ≤ i →
    deductions.find? (fun d => d.index == i) = none → params[i]? = some param →
    param.default? = some (.named name) →
    (params.take i).findIdx? (fun earlier => earlier.name == name) = some j →
    ∃ value, arguments[j]? = some value ∧ arguments[i]? = some value

/-- Completion honours everything that it is given. -/
theorem CompletionContext.honours_of_complete {ctx : CompletionContext}
    {params : List TemplateParameter} {explicit arguments : List TemplateArgument}
    {deductions : List Deduction} (h : ctx.complete params explicit deductions = .ok arguments) :
    Honours params explicit deductions arguments where
  fills := fills_of_complete h
  begins := by
    rw [List.prefix_iff_getElem?]
    intro i given
    have inside := Nat.lt_of_lt_of_le given (complete_eq_ok h).1
    obtain ⟨value, here, settled⟩ := valueFor_of_complete h (List.getElem?_eq_getElem inside)
    rw [valueFor, List.getElem?_eq_getElem given] at settled
    cases settled
    exact here
  deduced := by
    intro i d beyond inside found
    obtain ⟨value, here, settled⟩ := valueFor_of_complete h (List.getElem?_eq_getElem inside)
    rw [valueFor, List.getElem?_eq_none beyond, found] at settled
    cases settled
    exact here
  inherited := by
    intro i j param name beyond missing isParam default earlier
    obtain ⟨value, here, settled⟩ := valueFor_of_complete h isParam
    rw [valueFor, List.getElem?_eq_none beyond, missing, default] at settled
    -- The parameters before this one are bound to the arguments before its own.
    have length : arguments.length = params.length := (fills_of_complete h).length_eq
    have bound : (params.zip arguments).take i = (params.take i).zip (arguments.take i) :=
      List.take_zipWith
    obtain ⟨inherited, there, resolved⟩ := @resolveDefault_of_findIdx? ctx (params.take i)
      (arguments.take i) (by simp [length]) name j earlier i
    obtain rfl : inherited = value := by simpa [bound, resolved] using settled
    refine ⟨inherited, ?_, here⟩
    rw [List.getElem?_take] at there
    split at there
    · exact there
    · cases there

end ScriptSemantics
