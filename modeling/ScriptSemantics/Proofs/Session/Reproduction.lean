import Mathlib
import ScriptSemantics.Proofs.Registry.Rollback
import ScriptSemantics.Proofs.Session.Lasting
import ScriptSemantics.Proofs.Template.Matching
import ScriptSemantics.Proofs.Template.Placeholders

/-!
# Substitution Gives Back What Deduction Matched

Deduction takes argument types apart along the patterns of a template, and substitution puts types
together along the same patterns. This file shows that the second undoes the first: where a pattern
has matched an argument type, substituting the deduced arguments into the pattern gives that type
back.

Two things are needed. The argument type has to be closed: it is built without placeholders and
patterns, and its class instances are those that a request for them returns. And both sides have to
mean the same by the types in the pattern. Deduction recognizes a placeholder by the owner it names
in the registry, substitution by the parameters of the template; a placeholder that names the
template but is no parameter of it is bound by the first and left alone by the second.

Class instances are built on the way, so the session changes while a pattern is substituted.
`Session.Yields` says what an action returns in whatever session follows.
-/

namespace ScriptSemantics

/-! ## Placeholders of a template -/

namespace Registry

/-- The type is registered as the placeholder of the template at a position. -/
def PlaceholderAt (r : Registry) (template hash : TypeHash) (index : Nat) : Prop :=
  ∃ p, r.type? hash = some (.placeholder p) ∧ p.owner = template ∧ p.index = index

/-- The type is a placeholder of the template at a position exactly if it stands for the parameter
there. -/
def Recognizes (r : Registry) (template : TypeHash) (params : List TemplateParameter)
    (hash : TypeHash) : Prop :=
  ∀ index, r.PlaceholderAt template hash index ↔
    ∃ param, params[index]? = some param ∧ param.typeHash = hash

theorem placeholderAt_iff {r : Registry} {template : TypeHash} {t : DataType} {index : Nat} :
    r.PlaceholderAt template t.typeHash index ↔
      ∃ kind, ({ registry := r, template } : DeductionContext).placeholder? t =
        some (index, kind) := by
  unfold PlaceholderAt DeductionContext.placeholder?
  cases r.type? t.typeHash with
  | none => simp
  | some decl => cases decl <;> simp [TypeDecl.placeholder?]

end Registry

/-- A substitution reads a type as the bindings do: for a placeholder it has the value that is
bound, and it leaves other types alone. -/
structure DeductionContext.Reads (ctx : DeductionContext) (bindings : List Deduction)
    (map : Substitution) (hash : TypeHash) : Prop where
  own : ∀ index kind value, ctx.placeholder? (.simple hash) = some (index, kind) →
    { index, value } ∈ bindings → map.get? hash = some value
  other : ctx.placeholder? (.simple hash) = none → map.get? hash = none

/-- Where deduction and substitution recognize the same parameters, the completed list reads as the
bindings do. -/
theorem Registry.Recognizes.reads {r : Registry} {template hash : TypeHash}
    {params : List TemplateParameter} (recognizes : r.Recognizes template params hash)
    {bindings : List Deduction} {arguments : List TemplateArgument}
    (values : ∀ b ∈ bindings, b.index < params.length → arguments[b.index]? = some b.value) :
    ({ registry := r, template } : DeductionContext).Reads bindings
      (.ofArguments params arguments) hash := by
  have position : ∀ pair ∈ params.zip arguments, pair.1.typeHash = hash →
      ∃ index, arguments[index]? = some pair.2 ∧ r.PlaceholderAt template hash index := by
    intro pair member isHash
    obtain ⟨index, atIndex⟩ := List.getElem?_of_mem member
    rw [List.getElem?_zip_eq_some] at atIndex
    exact ⟨index, atIndex.2, (recognizes index).mpr ⟨pair.1, atIndex.1, isHash⟩⟩
  constructor
  · intro index kind value isOwn bound
    have isPlaceholder : r.PlaceholderAt template hash index :=
      Registry.placeholderAt_iff (t := .simple hash).mpr ⟨kind, isOwn⟩
    obtain ⟨param, atIndex, isHash⟩ := (recognizes index).mp isPlaceholder
    have inside : index < params.length := (List.getElem?_eq_some_iff.mp atIndex).1
    have hasValue : arguments[index]? = some value := values _ bound inside
    refine Substitution.get?_insertAll_of_mem (fun pair member isHash' => ?_)
      (.inr ⟨(param, value), ?_, isHash⟩)
    · -- A placeholder is at one position only.
      obtain ⟨index', atIndex', p', known', -, rfl⟩ := position pair member isHash'
      obtain ⟨p, known, -, rfl⟩ := isPlaceholder
      cases known.symm.trans known'
      exact Option.some.inj (atIndex'.symm.trans hasValue)
    · exact List.mem_of_getElem? (List.getElem?_zip_eq_some.mpr ⟨atIndex, hasValue⟩)
  · intro notOwn
    refine Substitution.get?_insertAll_of_not_mem fun pair member isHash => ?_
    obtain ⟨index, -, isPlaceholder⟩ := position pair member isHash
    obtain ⟨kind, isOwn⟩ := Registry.placeholderAt_iff (t := .simple hash).mp isPlaceholder
    cases notOwn.symm.trans isOwn

/-! ## What an action yields -/

namespace Session

/-- Whenever the action succeeds in a session in which everything has lasted, it returns this. -/
def Yields {α : Type} (s : Session) (action : InstantiationM α) (a : α) : Prop :=
  ∀ s₁ s₂ result, s₁.registry.SoundTemplates .lasting → Lasts s s₁ →
    exec action s₁ = (.ok result, s₂) → result = a

namespace Yields

variable {s : Session} {α β : Type}

theorem pure (a : α) : s.Yields (Pure.pure a) a := by
  rintro s₁ s₂ result - - ran
  cases ran
  rfl

/-- What comes second runs in a session in which everything has lasted, too. -/
theorem bind {x : InstantiationM α} {f : α → InstantiationM β} {a : α} {b : β}
    (respects : Respects Lasting x) (first : s.Yields x a) (second : s.Yields (f a) b) :
    s.Yields (x >>= f) b := by
  intro s₁ s₃ result sound lasts ran
  obtain ⟨a', s₂, ranFirst, ranSecond⟩ := exec_bind_eq_ok ran
  obtain rfl := first s₁ s₂ a' sound lasts ranFirst
  have lasting := respects s₁ sound
  rw [ranFirst] at lasting
  exact second s₂ s₃ result lasting.1 (lasts.trans lasting.2) ranSecond

theorem each {action : α → InstantiationM β} (respects : ∀ a, Respects Lasting (action a))
    {as : List α} {bs : List β} (h : List.Forall₂ (fun a b => s.Yields (action a) b) as bs) :
    s.Yields (Substitution.each action as) bs := by
  induction h with
  | nil => exact pure []
  | cons first _ ih =>
    exact bind (respects _) first (bind (Lasting.tracks.each respects _) ih (pure _))

/-! ### Types -/

variable {map : Substitution} {levels : Nat} {t : DataType}

/-- Nothing is ever returned without a level left. -/
theorem typeWithin_zero (t' : DataType) : s.Yields (map.typeWithin 0 t) t' :=
  fun _ _ _ _ _ ran => nomatch ran

theorem placeholder {concrete : DataType} (found : map.get? t.typeHash = some (.type concrete)) :
    s.Yields (map.typeWithin levels t) (concrete.add t.qualifiers) := by
  cases levels with
  | zero => exact typeWithin_zero _
  | succ levels =>
    rw [Substitution.typeWithin, found]
    exact pure _

/-- A template-id becomes the instance that its substituted arguments return. -/
theorem templateId {p : Pattern} {arguments : List TemplateArgument} {hash : TypeHash}
    (unmapped : map.get? t.typeHash = none)
    (isPattern : s.registry.type? t.typeHash = some (.pattern p))
    (parts : s.Yields (Substitution.each (map.argumentBy (map.typeWithin levels)) p.arguments)
      arguments)
    (returns : s.Returns ⟨p.template, arguments⟩ hash) :
    s.Yields (map.typeWithin (levels + 1) t) ⟨hash, t.qualifiers⟩ := by
  intro s₁ s₃ result sound lasts ran
  have isPattern₁ : s₁.registry.type? t.typeHash = some (.pattern p) :=
    (lasts.shapes _ _ isPattern).resolve_right fun ⟨_, _, isClass, _⟩ => nomatch isClass
  rw [Substitution.typeWithin, unmapped, exec_bind_ok (exec_get s₁)] at ran
  simp only [isPattern₁] at ran
  refine bind (Lasting.tracks.each (Lasting.tracks.argumentBy map
    (Lasting.tracks.typeWithin map levels)) _) parts ?_ s₁ s₃ result sound lasts ran
  -- The arguments may have been built meanwhile, but what the key returns is the same.
  refine bind (Lasting.instantiateClass _ _) ?_ (pure _)
  intro s₂ _ returned sound₂ lasts₂ made
  exact (returns.of_lasts lasts₂).eq_of_instantiateClass sound₂ made

/-- A function type is interned with its components substituted. -/
theorem functionType {f : FunctionType} {returnType : DataType} {params : List DataType}
    (unmapped : map.get? t.typeHash = none)
    (isFunction : s.registry.type? t.typeHash = some (.functionType f))
    (first : s.Yields (map.typeWithin levels f.returnType) returnType)
    (rest : s.Yields (Substitution.each (map.typeWithin levels) f.params) params) :
    s.Yields (map.typeWithin (levels + 1) t)
      ⟨(FunctionType.of returnType params).hash, t.qualifiers⟩ := by
  intro s₁ s₃ result sound lasts ran
  have isFunction₁ : s₁.registry.type? t.typeHash = some (.functionType f) :=
    (lasts.shapes _ _ isFunction).resolve_right fun ⟨_, _, isClass, _⟩ => nomatch isClass
  rw [Substitution.typeWithin, unmapped, exec_bind_ok (exec_get s₁)] at ran
  simp only [isFunction₁] at ran
  have respects := Lasting.tracks.typeWithin map levels
  refine bind (respects _) first (bind (Lasting.tracks.each respects _) rest ?_)
    s₁ s₃ result sound lasts ran
  exact bind (a := ⟨⟩) (.modify fun s => Lasting.tracks.intern s _) (fun _ _ _ _ _ _ => rfl)
    (pure _)

/-- Other types stand for themselves. -/
theorem unchanged {decl : TypeDecl} (unmapped : map.get? t.typeHash = none)
    (known : s.registry.type? t.typeHash = some decl)
    (noPattern : ∀ p, decl ≠ .pattern p) (noFunction : ∀ f, decl ≠ .functionType f) :
    s.Yields (map.typeWithin levels t) t := by
  cases levels with
  | zero => exact typeWithin_zero _
  | succ levels =>
    intro s₁ s₂ result _ lasts ran
    rw [Substitution.typeWithin, unmapped, exec_bind_ok (exec_get s₁)] at ran
    -- A class may have changed its members by now, but it is a class still.
    rcases lasts.shapes _ _ known with same | ⟨_, _, -, changed⟩
    · cases decl with
      | pattern p => exact absurd rfl (noPattern p)
      | functionType f => exact absurd rfl (noFunction f)
      | fundamental _ | classType _ | enumType _ | closure _ | placeholder _ =>
        simp only [same] at ran
        cases ran
        rfl
    · simp only [changed] at ran
      cases ran
      rfl

end Yields

end Session

/-! ## Closed types -/

/-- Types that are neither written with other types nor instances of a template. -/
def TypeDecl.IsPlain : TypeDecl → Prop
  | .fundamental _ | .enumType _ | .closure _ => True
  | .classType c => c.template = none
  | .functionType _ | .placeholder _ | .pattern _ => False

/-- A type that is built without placeholders and patterns: from plain types, by class instances
that a request returns and by function types under the identity of their components. -/
inductive Session.Closed (s : Session) : TypeHash → Prop where
  | plain {hash : TypeHash} {decl : TypeDecl} (known : s.registry.type? hash = some decl)
      (isPlain : decl.IsPlain) : Closed s hash
  | classInstance {hash template : TypeHash} {c : ClassDecl}
      (known : s.registry.type? hash = some (.classType c))
      (ofTemplate : c.template = some template)
      (returns : s.Returns ⟨template, c.templateArgs⟩ hash)
      (parts : ∀ t, .type t ∈ c.templateArgs → Closed s t.typeHash) : Closed s hash
  | functionType {returnType : DataType} {params : List DataType}
      (known : s.registry.type? (FunctionType.of returnType params).hash =
        some (.functionType (.of returnType params)))
      (parts : ∀ t ∈ returnType :: params, Closed s t.typeHash) :
      Closed s (FunctionType.of returnType params).hash

namespace Session

variable {s : Session} {ctx : DeductionContext} {bindings : List Deduction} {map : Substitution}

/-- What a request has made from closed arguments is closed, if the registry holds it. -/
theorem Closed.of_instantiateClass {s' : Session} {template hash : TypeHash}
    {explicit : List TemplateArgument} {key : InstanceKey}
    (keyed : s.key? .classType template explicit = some key)
    (ran : exec (ScriptSemantics.instantiateClass template explicit) s = (.ok hash, s'))
    (held : s'.registry.HoldsInstance hash key.template key.arguments)
    (parts : ∀ t, .type t ∈ key.arguments → s'.Closed t.typeHash) : s'.Closed hash := by
  obtain ⟨c, known, ofTemplate, sameArguments⟩ := held
  have returns : s'.Returns ⟨key.template, c.templateArgs⟩ hash := by
    rw [sameArguments]
    exact .of_instantiateClass keyed ran
  exact .classInstance (Registry.class?_eq_some_iff.mp known) ofTemplate returns
    (sameArguments ▸ parts)

theorem Closed.placeholder?_eq_none {hash : TypeHash} (closed : s.Closed hash)
    (registry : ctx.registry = s.registry) : ctx.placeholder? (.simple hash) = none := by
  unfold DeductionContext.placeholder?
  rw [registry]
  cases closed with
  | @plain hash decl known isPlain =>
    cases decl with
    | placeholder p => cases isPlain
    | fundamental _ | classType _ | enumType _ | functionType _ | closure _ | pattern _ =>
      simp [DataType.simple, known, TypeDecl.placeholder?]
  | classInstance known => simp [DataType.simple, known, TypeDecl.placeholder?]
  | functionType known => simp [DataType.simple, known, TypeDecl.placeholder?]

/-- A closed type stands for itself. By induction on how it is built: only function types are put
together anew. -/
theorem Closed.yields {hash : TypeHash} (closed : s.Closed hash)
    (registry : ctx.registry = s.registry)
    (reads : ∀ part, s.registry.Occurs hash part → ctx.Reads bindings map part) (levels : Nat)
    (qualifiers : Qualifiers) :
    s.Yields (map.typeWithin levels ⟨hash, qualifiers⟩) ⟨hash, qualifiers⟩ := by
  induction closed generalizing levels qualifiers with
  | @plain hash decl known isPlain =>
    have unmapped := (reads hash .refl).other
      ((Closed.plain known isPlain).placeholder?_eq_none registry)
    refine .unchanged unmapped known ?_ ?_
    · rintro p rfl
      exact isPlain
    · rintro f rfl
      exact isPlain
  | @classInstance hash template c known ofTemplate returns parts =>
    have unmapped := (reads hash .refl).other
      ((Closed.classInstance known ofTemplate returns parts).placeholder?_eq_none registry)
    exact .unchanged unmapped known (fun _ h => nomatch h) (fun _ h => nomatch h)
  | @functionType returnType params known parts ih =>
    have unmapped := (reads _ .refl).other
      ((Closed.functionType known parts).placeholder?_eq_none registry)
    cases levels with
    | zero => exact .typeWithin_zero _
    | succ levels =>
      -- Its components stand for themselves, and so it is interned under its own identity.
      have component : ∀ t ∈ returnType :: params, s.Yields (map.typeWithin levels t) t := by
        intro t member
        refine ih t member (fun part occurs => reads part (.head ⟨t, ?_, rfl⟩ occurs)) levels
          t.qualifiers
        rw [Registry.components, known]
        exact member
      rw [List.forall_mem_cons] at component
      exact .functionType unmapped known component.1
        (.each (Lasting.tracks.typeWithin map levels) (List.forall₂_same.mpr component.2))

/-- A class instance that is closed is returned for its template and arguments. -/
theorem Closed.of_class {hash template : TypeHash} (closed : s.Closed hash) {c : ClassDecl}
    (known : s.registry.class? hash = some c) (ofTemplate : c.template = some template) :
    s.Returns ⟨template, c.templateArgs⟩ hash ∧
      ∀ t, .type t ∈ c.templateArgs → s.Closed t.typeHash := by
  obtain ⟨decl, known, isClass⟩ := Option.bind_eq_some_iff.mp known
  cases decl <;> cases isClass
  cases closed with
  | plain known' isPlain =>
    cases known.symm.trans known'
    cases ofTemplate.symm.trans isPlain
  | classInstance known' ofTemplate' returns parts =>
    cases known.symm.trans known'
    cases ofTemplate.symm.trans ofTemplate'
    exact ⟨returns, parts⟩
  | functionType known' => cases known.symm.trans known'

theorem Closed.of_functionType {hash : TypeHash} (closed : s.Closed hash) {g : FunctionType}
    (known : s.registry.type? hash = some (.functionType g)) :
    hash = (FunctionType.of g.returnType g.params).hash ∧
      ∀ t ∈ g.returnType :: g.params, s.Closed t.typeHash := by
  cases closed with
  | plain known' isPlain =>
    cases known.symm.trans known'
    cases isPlain
  | classInstance known' => cases known.symm.trans known'
  | functionType known' parts =>
    cases known.symm.trans known'
    exact ⟨rfl, parts⟩

/-- Inside an argument, a type that is not mapped to a value is substituted as a type. -/
theorem Yields.argument {rule : DataType → InstantiationM DataType} {t t' : DataType}
    (noValue : ∀ value, map.get? t.typeHash = some value → value.type?.isSome)
    (respects : Respects Lasting (rule t)) (h : s.Yields (rule t) t') :
    s.Yields (map.argumentBy rule (.type t)) (.type t') := by
  rw [Substitution.argumentBy]
  split
  · rename_i mapped
    cases noValue _ mapped
  · rename_i mapped
    cases noValue _ mapped
  · exact .bind respects h (.pure _)

/-- A type that is not mapped at all may be put together with one level less for its parts. -/
theorem Yields.argument_unmapped {levels : Nat} {t t' : DataType}
    (unmapped : map.get? t.typeHash = none)
    (h : ∀ fewer, s.Yields (map.typeWithin (fewer + 1) t) t') :
    s.Yields (map.argumentBy (map.typeWithin levels) (.type t)) (.type t') := by
  refine .argument (fun value mapped => ?_) (Lasting.tracks.typeWithin map levels t) ?_
  · cases unmapped.symm.trans mapped
  · cases levels with
    | zero => exact .typeWithin_zero _
    | succ fewer => exact h fewer

/-- As a type of its own, a type is what it is inside an argument: where it is mapped to a value it
is refused. -/
theorem Yields.of_argument {levels : Nat} {t t' : DataType}
    (h : s.Yields (map.argumentBy (map.typeWithin levels) (.type t)) (.type t')) :
    s.Yields (map.typeWithin levels t) t' := by
  intro s₁ s₂ result sound lasts ran
  rw [Substitution.argumentBy] at h
  have refused (value : TemplateArgument) (isValue : value.type? = none)
      (mapped : map.get? t.typeHash = some value) : result = t' := by
    cases levels with
    | zero => cases ran
    | succ levels =>
      rw [Substitution.typeWithin, mapped] at ran
      cases value with
      | type _ => cases isValue
      | bool _ | integer _ => cases ran
  split at h
  · rename_i mapped
    exact refused _ rfl mapped
  · rename_i mapped
    exact refused _ rfl mapped
  · have isType := h s₁ s₂ (.type result) sound lasts (by rw [exec_bind_ok ran]; rfl)
    cases isType
    rfl

/-! ## Patterns -/

/-- **Substitution gives back what has matched.** By induction on the match: placeholders give the
bound value with the qualifiers of the pattern, concrete types stand for themselves, and the other
patterns are put together from their parts. -/
theorem yields_of_matches {expected actual : TemplateArgument}
    (matched : ctx.Matches bindings expected actual) (registry : ctx.registry = s.registry)
    (reads : ∀ t, expected = .type t → ∀ part, s.registry.Occurs t.typeHash part →
      ctx.Reads bindings map part)
    (closed : ∀ t, actual = .type t → s.Closed t.typeHash) (levels : Nat) :
    s.Yields (map.argumentBy (map.typeWithin levels) expected) actual := by
  have respects := Lasting.tracks.typeWithin map
  have notOwn {t : DataType} {decl : TypeDecl} (known : s.registry.type? t.typeHash = some decl)
      (other : decl.placeholder? = none) : ctx.placeholder? (.simple t.typeHash) = none := by
    simp [DeductionContext.placeholder?, registry, DataType.simple, known, other]
  induction matched generalizing levels with
  | @placeholder pattern value index kind isOwn bound =>
    have mapped :=
      (reads pattern rfl pattern.typeHash .refl).own index kind (.type value) isOwn bound
    refine .argument (fun found same => ?_) (respects levels pattern) (.placeholder mapped)
    cases mapped.symm.trans same
    rfl
  | @valuePlaceholder pattern value index kind isOwn bound isValue =>
    -- A value takes the place of the whole argument, with no type to qualify.
    have mapped := (reads pattern rfl pattern.typeHash .refl).own index kind value isOwn bound
    rw [Substitution.argumentBy, mapped]
    cases value with
    | type t => cases isValue
    | bool _ | integer _ => exact .pure _
  | @concrete t isOther =>
    exact .argument_unmapped ((reads t rfl t.typeHash .refl).other isOther) fun fewer =>
      (closed t rfl).yields registry (reads t rfl) (fewer + 1) t.qualifiers
  | @templateId pattern found p c isPattern isClass sameTemplate sameLength sameQualifiers parts
      ih =>
    rw [registry] at isPattern isClass
    have unmapped := (reads pattern rfl pattern.typeHash .refl).other (notOwn isPattern rfl)
    obtain ⟨returns, closedParts⟩ := (closed found rfl).of_class isClass sameTemplate
    refine .argument_unmapped unmapped fun fewer => ?_
    have each : s.Yields (Substitution.each (map.argumentBy (map.typeWithin fewer)) p.arguments)
        c.templateArgs := by
      refine .each (Lasting.tracks.argumentBy map (respects fewer))
        (List.forall₂_iff_zip.mpr ⟨sameLength.symm, fun {a b} member => ?_⟩)
      obtain ⟨left, right⟩ := List.of_mem_zip member
      refine ih (a, b) member (fun t isType part occurs => ?_) (fun t isType => ?_) fewer
      · -- What occurs in a component occurs in the pattern.
        cases (show a = .type t from isType)
        refine reads pattern rfl part (.head ⟨t, ?_, rfl⟩ occurs)
        rw [Registry.components, isPattern]
        exact List.mem_filterMap.mpr ⟨.type t, left, rfl⟩
      · cases (show b = .type t from isType)
        exact closedParts t right
    -- Substituted, the pattern asks for the very instance that was matched.
    have result := Yields.templateId unmapped isPattern each returns
    rwa [← sameQualifiers] at result
  | @functionType pattern found f g isFunction isFunction' sameLength sameQualifiers parts ih =>
    rw [registry] at isFunction isFunction'
    have unmapped := (reads pattern rfl pattern.typeHash .refl).other (notOwn isFunction rfl)
    obtain ⟨identity, closedParts⟩ := (closed found rfl).of_functionType isFunction'
    refine .argument_unmapped unmapped fun fewer => ?_
    have components : List.Forall₂ (fun a b => s.Yields (map.typeWithin fewer a) b)
        (f.returnType :: f.params) (g.returnType :: g.params) := by
      refine List.forall₂_iff_zip.mpr ⟨by simp [sameLength], fun {a b} member => ?_⟩
      obtain ⟨left, right⟩ := List.of_mem_zip member
      -- Components of function types are substituted as types, never replaced by values.
      refine .of_argument (ih (a, b) member (fun t isType part occurs => ?_) (fun t isType => ?_)
        fewer)
      · cases isType
        refine reads pattern rfl part (.head ⟨a, ?_, rfl⟩ occurs)
        rw [Registry.components, isFunction]
        exact left
      · cases isType
        exact closedParts b right
    rw [List.forall₂_cons] at components
    have result := Yields.functionType unmapped isFunction components.1
      (.each (respects fewer) components.2)
    rwa [← identity, ← sameQualifiers] at result
  | @value a isValue =>
    cases a with
    | type t => cases isValue
    | bool _ | integer _ => exact .pure _

end Session

/-! ## Calls -/

/-- **Substitution reproduces the arguments that deduction matched.** Let the arguments of a
function template be deduced from the types of a call, with none given explicitly, and completed, at
any point of a run that starts with class templates under their own identities. At each position
whose pattern mentions a placeholder of the template, where deduction and substitution recognize the
same parameters, and at any later point as long as no types are taken out: if the pattern can be
substituted, the result is the argument type up to qualifiers, provided that is closed; and for a
bare placeholder it has the base of the argument type. -/
theorem substitution_reproduces_argument {s₀ s : Session}
    (sound : s₀.registry.SoundTemplates .lasting) (run : s₀.Later .all s) {template : TypeHash}
    {t : FunctionTemplate} (found : s.registry.functionTemplate? template = some t)
    {types : List DataType} {deductions : List Deduction} {arguments : List TemplateArgument}
    (deduced : (exec (deduceArguments template [] types) s).1 = .ok deductions)
    (completed : (exec (completeArguments template [] deductions) s).1 = .ok arguments)
    {position : Nat} {param : Param} {arg : DataType}
    (atParam : t.signature[position]? = some param) (atArg : types[position]? = some arg)
    (mentions : ∃ part index, s.registry.Occurs param.dataType.typeHash part ∧
      s.registry.PlaceholderAt template part index)
    (recognizes : ∀ part, s.registry.Occurs param.dataType.typeHash part →
      s.registry.Recognizes template t.params part)
    {s' s'' : Session} (later : s.Later .lasting s') {result : DataType}
    (substituted : exec ((Substitution.ofArguments t.params arguments).type param.dataType) s' =
      (.ok result, s'')) :
    (s.Closed arg.typeHash → result.typeHash = arg.typeHash) ∧
      ∀ index, s.registry.PlaceholderAt template param.dataType.typeHash index →
        result.base = arg.base := by
  rw [exec_deduceArguments found] at deduced
  rw [exec_completeArguments found] at completed
  -- The argument has matched its pattern, and the completed list has the values that were bound.
  obtain ⟨bindings, succeeded, values⟩ :=
    DeductionContext.exists_bindings_of_deduce deduced completed
  obtain ⟨_, matched⟩ := DeductionContext.matchParam_of_matchParams succeeded
    (by rw [List.getElem?_map, atParam]; rfl) atArg
  obtain ⟨bare, structured⟩ := DeductionContext.matches_of_matchParam rfl matched
  have reads := fun part occurs => (recognizes part occurs).reads values
  obtain ⟨sound', lasts⟩ := later.lasting (run.soundTemplates sound)
  cases isOwn : ({ registry := s.registry, template } : DeductionContext).placeholder?
    param.dataType with
  | some own =>
    obtain ⟨index, kind⟩ := own
    obtain ⟨value, bound, base⟩ := bare index kind isOwn
    -- A bare placeholder: the qualifiers of the argument are lost, but not its base.
    have mapped := (reads _ .refl).own index kind (.type value) isOwn bound
    obtain rfl := Session.Yields.placeholder mapped s' s'' result sound' lasts substituted
    have same : (value.add param.dataType.qualifiers).base.typeHash = arg.base.typeHash := by
      rw [base]
    exact ⟨fun _ => same, fun _ _ => base⟩
  | none =>
    refine ⟨fun closed => ?_, fun index isPlaceholder => ?_⟩
    · have dependent : ({ registry := s.registry, template } : DeductionContext).isDependent
          param.dataType := by
        obtain ⟨part, index, occurs, isPlaceholder⟩ := mentions
        obtain ⟨kind, isOwn⟩ := Registry.placeholderAt_iff (t := .simple part).mp isPlaceholder
        exact DeductionContext.isDependent_iff.mpr ⟨part, occurs, by rw [isOwn]; rfl⟩
      have yields := Session.yields_of_matches (structured isOwn dependent) rfl
        (fun t isType => by cases isType; exact reads)
        (fun t isType => by cases isType; exact closed) TypeHash.count
      rw [yields.of_argument s' s'' result sound' lasts substituted]
    · obtain ⟨kind, isOwn'⟩ := Registry.placeholderAt_iff.mp isPlaceholder
      cases isOwn.symm.trans isOwn'

/-! A session with a class template of two types, and with a function template `swap` that takes a
reference to an instance of it, written with two placeholders. -/

/-- A class template of two types. -/
def bareCouple : ClassTemplate where
  name := "Couple"
  qualifiedName := "Couple"
  hash := ⟨10⟩
  params := [
    { name := "A", kind := .type, typeHash := ⟨11⟩ },
    { name := "B", kind := .type, typeHash := ⟨12⟩ }]
  backend := .host fun _ made => .ok made

/-- The template `swap` with these parameters. -/
def swap (params : List TemplateParameter) : FunctionTemplate where
  name := "swap"
  qualifiedName := "swap"
  hash := ⟨1⟩
  params := params
  signature := [{ dataType := .constRef ⟨4⟩ }]
  backend := .script 0

/-- The parameters of `swap`, what is registered under the second identity in its pattern, and the
arguments of the instance that is on record. -/
def couples (params : List TemplateParameter) (second : TypeDecl)
    (arguments : List TemplateArgument) : Session where
  registry := {
    types := { entries := [
      (⟨2⟩, .placeholder { hash := ⟨2⟩, name := "T", owner := ⟨1⟩, index := 0, kind := .type }),
      (⟨3⟩, second),
      (⟨4⟩, .pattern { hash := ⟨4⟩, template := ⟨10⟩, arguments := [.ofHash ⟨2⟩, .ofHash ⟨3⟩] }),
      (⟨20⟩, .classType
        { ClassDecl.templateInstance "" "Couple" ⟨10⟩ arguments with hash := ⟨20⟩ }),
      (FundamentalKind.int.hash, .fundamental .int),
      (FundamentalKind.float.hash, .fundamental .float)] }
    functionTemplates := { entries := [(⟨1⟩, swap params)] }
    classTemplates := { entries := [(⟨10⟩, bareCouple)] } }
  classInstances := { instances := { entries := [(⟨⟨10⟩, arguments⟩, ⟨20⟩)] } }

section Couples

variable {params : List TemplateParameter} {second : TypeDecl} {arguments : List TemplateArgument}

theorem couples_soundTemplates :
    (couples params second arguments).registry.SoundTemplates .lasting := by
  intro hash t found
  have member : (hash, t) ∈ [((⟨10⟩ : TypeHash), bareCouple)] := Table.mem_entries_of_get? found
  cases List.mem_singleton.mp member
  exact ⟨rfl, trivial⟩

theorem couples_occurs : (couples params second arguments).registry.Occurs ⟨4⟩ ⟨2⟩ :=
  .single ⟨.simple ⟨2⟩, List.mem_cons_self, rfl⟩

theorem couples_closed {a b : DataType}
    (left : (couples params second [.type a, .type b]).Closed a.typeHash)
    (right : (couples params second [.type a, .type b]).Closed b.typeHash) :
    (couples params second [.type a, .type b]).Closed ⟨20⟩ := by
  have fills : FillsParameters bareCouple.params [.type a, .type b] :=
    .cons rfl (.cons rfl .nil)
  have onRecord : ((couples params second [.type a, .type b]).cache .classType).get?
      ⟨⟨10⟩, [.type a, .type b]⟩ = some ⟨20⟩ := List.lookup_cons_self
  refine .classInstance rfl rfl ⟨?_, .inl onRecord⟩ fun t member => ?_
  · exact Session.key?_eq_some_iff.mpr ⟨rfl, bareCouple.params, bareCouple.path, rfl,
      CompletionContext.complete_of_fills fills⟩
  · rcases List.mem_cons.mp member with isFirst | member
    · cases isFirst
      exact left
    · cases List.mem_singleton.mp member
      exact right

end Couples

/-- The parameters of `swap`. -/
def swapFirst : TemplateParameter := { name := "T", kind := .type, typeHash := ⟨2⟩ }

def swapSecond : TemplateParameter where
  name := "U"
  kind := .type
  typeHash := ⟨3⟩
  default? := some (.value (.ofHash FundamentalKind.float.hash))

/-- The placeholder of the second parameter. -/
def swapPlaceholder : TypeDecl :=
  .placeholder { hash := ⟨3⟩, name := "U", owner := ⟨1⟩, index := 1, kind := .type }

/-- Both placeholders are parameters of `swap`, and the instance is `Couple<int, const int&>`. -/
def matchedCouple : Session :=
  couples [swapFirst, swapSecond] swapPlaceholder
    [.ofHash FundamentalKind.int.hash, .type (.constRef FundamentalKind.int.hash)]

theorem matchedCouple_closed : matchedCouple.Closed ⟨20⟩ := by
  have int : matchedCouple.registry.type? FundamentalKind.int.hash = some (.fundamental .int) := by
    cbv
  exact couples_closed (.plain int trivial) (.plain int trivial)

theorem matchedCouple_recognizes (part : TypeHash)
    (occurs : matchedCouple.registry.Occurs ⟨4⟩ part) :
    matchedCouple.registry.Recognizes ⟨1⟩ [swapFirst, swapSecond] part := by
  have among : part = ⟨4⟩ ∨ part = ⟨2⟩ ∨ part = ⟨3⟩ := by
    induction occurs with
    | refl => exact .inl rfl
    | tail _ step ih =>
      obtain ⟨t, member, rfl⟩ := step
      rcases ih with rfl | rfl | rfl
      · rcases List.mem_cons.mp member with rfl | member
        · exact .inr (.inl rfl)
        · cases List.mem_singleton.mp member
          exact .inr (.inr rfl)
      · cases member
      · cases member
  intro index
  rcases among with rfl | rfl | rfl
  · constructor
    · rintro ⟨p, known, -⟩
      cases known
    · rintro ⟨param, atIndex, isHash⟩
      rcases index with _ | _ | index <;> cases atIndex <;> exact absurd isHash (by decide)
  · constructor
    · rintro ⟨p, known, -, rfl⟩
      cases known
      exact ⟨swapFirst, rfl, rfl⟩
    · rintro ⟨param, atIndex, isHash⟩
      rcases index with _ | _ | index <;> cases atIndex
      · exact ⟨_, rfl, rfl, rfl⟩
      · exact absurd isHash (by decide)
  · constructor
    · rintro ⟨p, known, -, rfl⟩
      cases known
      exact ⟨swapSecond, rfl, rfl⟩
    · rintro ⟨param, atIndex, isHash⟩
      rcases index with _ | _ | index <;> cases atIndex
      · exact absurd isHash (by decide)
      · exact ⟨_, rfl, rfl, rfl⟩

/-- For a `Couple<int, const int&>` both arguments are deduced, and the parameter of the instance is
a reference to that type again. -/
theorem substitution_reproduces_argument_couple :
    matchedCouple.registry.SoundTemplates .lasting ∧ matchedCouple.Closed ⟨20⟩ ∧
      ∃ result s',
        exec ((Substitution.ofArguments [swapFirst, swapSecond] [.ofHash FundamentalKind.int.hash,
          .type (.constRef FundamentalKind.int.hash)]).type (.constRef ⟨4⟩)) matchedCouple =
            (.ok result, s') ∧ result.typeHash = ⟨20⟩ := by
  have deduced : (exec (deduceArguments ⟨1⟩ [] [.simple ⟨20⟩]) matchedCouple).1 =
      .ok [⟨0, .ofHash FundamentalKind.int.hash⟩,
        ⟨1, .type (.constRef FundamentalKind.int.hash)⟩] := by
    cbv
  have completed : (exec (completeArguments ⟨1⟩ [] [⟨0, .ofHash FundamentalKind.int.hash⟩,
      ⟨1, .type (.constRef FundamentalKind.int.hash)⟩]) matchedCouple).1 =
      .ok [.ofHash FundamentalKind.int.hash, .type (.constRef FundamentalKind.int.hash)] := by
    cbv
  have succeeds : (exec ((Substitution.ofArguments [swapFirst, swapSecond]
      [.ofHash FundamentalKind.int.hash, .type (.constRef FundamentalKind.int.hash)]).type
        (.constRef ⟨4⟩)) matchedCouple).1.toOption.isSome := by
    cbv
  rcases ran : exec ((Substitution.ofArguments [swapFirst, swapSecond]
      [.ofHash FundamentalKind.int.hash, .type (.constRef FundamentalKind.int.hash)]).type
        (.constRef ⟨4⟩)) matchedCouple with ⟨e | result, s'⟩
  · rw [ran] at succeeds
    cases succeeds
  · have found : matchedCouple.registry.functionTemplate? ⟨1⟩ =
        some (swap [swapFirst, swapSecond]) := rfl
    have atParam : (swap [swapFirst, swapSecond]).signature[0]? =
        some { dataType := .constRef ⟨4⟩ } := rfl
    refine ⟨couples_soundTemplates, matchedCouple_closed, result, s', rfl, ?_⟩
    exact (substitution_reproduces_argument couples_soundTemplates .refl found deduced completed
      atParam rfl ⟨⟨2⟩, 0, couples_occurs, _, rfl, rfl, rfl⟩ matchedCouple_recognizes .refl ran).1
      matchedCouple_closed

/-- The instance is closed and the pattern of `swap` mentions a placeholder, but what is deduced
from the instance and put into the pattern gives another type. -/
def Session.LosesCouple (s : Session) : Prop :=
  s.Closed ⟨20⟩ ∧ s.registry.Occurs ⟨4⟩ ⟨2⟩ ∧ s.registry.PlaceholderAt ⟨1⟩ ⟨2⟩ 0 ∧
    ∃ t deductions arguments result,
      s.registry.functionTemplate? ⟨1⟩ = some t ∧ t.signature = [{ dataType := .constRef ⟨4⟩ }] ∧
      (exec (deduceArguments ⟨1⟩ [] [.simple ⟨20⟩]) s).1 = .ok deductions ∧
      (exec (completeArguments ⟨1⟩ [] deductions) s).1 = .ok arguments ∧
      (exec ((Substitution.ofArguments t.params arguments).type (.constRef ⟨4⟩)) s).1 = .ok result ∧
      result.typeHash ≠ ⟨20⟩

/-- A placeholder that names `swap` as its owner, but is no parameter of it. -/
def strayCouple : Session :=
  couples [swapFirst] swapPlaceholder
    [.ofHash FundamentalKind.int.hash, .ofHash FundamentalKind.float.hash]

/-- A parameter of `swap` whose placeholder has given way to a class. -/
def displacedCouple : Session :=
  couples [swapFirst, swapSecond]
    (.classType { name := "Own", qualifiedName := "Own", hash := ⟨3⟩ })
    [.ofHash FundamentalKind.int.hash, .ofHash ⟨3⟩]

/-- Where the two sides mean different things the argument is lost. The stray placeholder is deduced
and stays in the result; the displaced parameter is taken for the class and replaced by its
default. -/
theorem substitution_departs_from_argument :
    strayCouple.LosesCouple ∧ displacedCouple.LosesCouple := by
  refine ⟨⟨?_, couples_occurs, ⟨_, rfl, rfl, rfl⟩, ?_⟩,
    ?_, couples_occurs, ⟨_, rfl, rfl, rfl⟩, ?_⟩
  · have int : strayCouple.registry.type? FundamentalKind.int.hash = some (.fundamental .int) := by
      cbv
    have float : strayCouple.registry.type? FundamentalKind.float.hash =
        some (.fundamental .float) := by
      cbv
    exact couples_closed (.plain int trivial) (.plain float trivial)
  · exact ⟨swap [swapFirst],
      [⟨0, .ofHash FundamentalKind.int.hash⟩, ⟨1, .ofHash FundamentalKind.float.hash⟩],
      [.ofHash FundamentalKind.int.hash],
      .constRef (.ofTemplateInstance ⟨10⟩ [.ofHash FundamentalKind.int.hash, .ofHash ⟨3⟩]),
      rfl, rfl, by cbv, by cbv, by cbv, by decide +kernel⟩
  · have int : displacedCouple.registry.type? FundamentalKind.int.hash =
        some (.fundamental .int) := by
      cbv
    exact couples_closed (.plain int trivial) (.plain rfl rfl)
  · exact ⟨swap [swapFirst, swapSecond], [⟨0, .ofHash FundamentalKind.int.hash⟩],
      [.ofHash FundamentalKind.int.hash, .ofHash FundamentalKind.float.hash],
      .constRef (.ofTemplateInstance ⟨10⟩
        [.ofHash FundamentalKind.int.hash, .ofHash FundamentalKind.float.hash]),
      rfl, rfl, by cbv, by cbv, by cbv, by decide +kernel⟩

end ScriptSemantics
