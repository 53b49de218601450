import ScriptSemantics.Session.Substitution

/-!
# Placeholders of One Template

The placeholder of a parameter is computed from the identity of the template and the position of the
parameter, and then it stands on its own: deduction asks which parameter a placeholder belongs to,
and substitution asks for the argument that replaces it. Both answers are right as long as no two
parameters of a template share a placeholder.

1. The placeholders of one owner are consecutive words (`TypeHash.ofTemplateParam_inj`), so they do
   not repeat before all words are used up.
2. `NumberedBy` says that a parameter list has the placeholders of its owner, in order. Every step
   that builds a template keeps it: a new parameter gets the next placeholder, and a new identity
   renumbers the parameters that there are.

The main statement is `placeholders_distinct_and_invertible`.
-/

namespace ScriptSemantics

/-! ## The substitution of an argument list -/

namespace Substitution

variable {pairs : List (TemplateParameter × TemplateArgument)} {map : Substitution}
  {hash : TypeHash}

/-- Enter an argument for each of some parameters. -/
def insertAll (map : Substitution) (pairs : List (TemplateParameter × TemplateArgument)) :
    Substitution :=
  pairs.foldl (fun map (param, argument) => map.insert param.typeHash argument) map

theorem get?_insertAll_of_not_mem (h : ∀ pair ∈ pairs, pair.1.typeHash ≠ hash) :
    (map.insertAll pairs).get? hash = map.get? hash := by
  induction pairs generalizing map with
  | nil => rfl
  | cons pair pairs ih =>
    rw [List.forall_mem_cons] at h
    show (insertAll (map.insert pair.1.typeHash pair.2) pairs).get? hash = _
    rw [ih h.2, Table.get?_insert, if_neg (Ne.symm h.1)]

/-- Where all parameters of one identity have the same argument, it is the one that is found. -/
theorem get?_insertAll_of_mem {value : TemplateArgument}
    (same : ∀ pair ∈ pairs, pair.1.typeHash = hash → pair.2 = value)
    (h : map.get? hash = some value ∨ ∃ pair ∈ pairs, pair.1.typeHash = hash) :
    (map.insertAll pairs).get? hash = some value := by
  induction pairs generalizing map with
  | nil => exact h.resolve_right fun ⟨_, member, _⟩ => nomatch member
  | cons pair pairs ih =>
    rw [List.forall_mem_cons] at same
    show (insertAll (map.insert pair.1.typeHash pair.2) pairs).get? hash = _
    refine ih same.2 ?_
    rw [Table.get?_insert]
    by_cases here : hash = pair.1.typeHash
    · rw [if_pos here, same.1 here.symm]
      exact .inl rfl
    · rw [if_neg here]
      refine h.imp_right fun ⟨pair', member, isHash⟩ => ⟨pair', ?_, isHash⟩
      rcases List.mem_cons.mp member with rfl | member
      · exact absurd isHash.symm here
      · exact member

end Substitution

/-! ## Placeholders of one owner -/

theorem TypeHash.ofTemplateParam_inj {owner : TypeHash} {i j : Nat} (hi : i < count)
    (hj : j < count) : ofTemplateParam owner i = ofTemplateParam owner j ↔ i = j := by
  constructor
  · intro same
    -- What comes from the owner is one summand, the position is in the other.
    rw [ofTemplateParam, ofTemplateParam, TypeHash.mk.injEq, UInt64.add_right_inj,
      UInt64.add_left_inj] at same
    have words := congrArg UInt64.toNat same
    rwa [UInt64.toNat_ofNat_of_lt' hi, UInt64.toNat_ofNat_of_lt' hj] at words
  · rintro rfl
    rfl

/-! ## Numbered parameters -/

/-- The placeholders of the parameters are those of the owner, in order. -/
def NumberedBy (owner : TypeHash) (params : List TemplateParameter) : Prop :=
  ∀ (i : Nat) (param : TemplateParameter), params[i]? = some param →
    param.typeHash = .ofTemplateParam owner i

namespace NumberedBy

variable {owner : TypeHash} {params : List TemplateParameter}

theorem nil : NumberedBy owner [] := nofun

/-- Adding a parameter. -/
theorem concat (numbered : NumberedBy owner params) {param : TemplateParameter}
    (next : param.typeHash = .ofTemplateParam owner params.length) :
    NumberedBy owner (params ++ [param]) := by
  intro i param' found
  rw [List.getElem?_append] at found
  split at found
  · exact numbered i param' found
  · rename_i behind
    rw [List.getElem?_singleton] at found
    split at found
    · cases found
      rw [next, show i = params.length by omega]
    · cases found

/-- Renumbering for another owner. -/
theorem renumbered (owner : TypeHash) (params : List TemplateParameter) :
    NumberedBy owner (params.zipIdx.map fun (param, index) =>
      { param with typeHash := .ofTemplateParam owner index }) := by
  intro i param found
  rw [List.getElem?_map, List.getElem?_zipIdx] at found
  cases here : params[i]? with
  | none => simp [here] at found
  | some old =>
    simp only [here, Option.map_some, Option.some.injEq, Nat.zero_add] at found
    rw [← found]

variable (numbered : NumberedBy owner params) (few : params.length ≤ TypeHash.count)

include numbered few

theorem index_eq {i j : Nat} {param param' : TemplateParameter} (hi : params[i]? = some param)
    (hj : params[j]? = some param') (same : param.typeHash = param'.typeHash) : i = j := by
  have boundI := (List.getElem?_eq_some_iff.mp hi).1
  have boundJ := (List.getElem?_eq_some_iff.mp hj).1
  rw [numbered i param hi, numbered j param' hj] at same
  exact (TypeHash.ofTemplateParam_inj (by omega) (by omega)).mp same

theorem nodup : (params.map TemplateParameter.typeHash).Nodup := by
  rw [List.Nodup, List.pairwise_map, List.pairwise_iff_getElem]
  intro i j hi hj before same
  have := numbered.index_eq few (List.getElem?_eq_getElem hi) (List.getElem?_eq_getElem hj) same
  omega

/-- A search for a placeholder stops at its parameter. -/
theorem findIdx?_eq_some_iff (hash : TypeHash) (i : Nat) :
    params.findIdx? (fun param => param.typeHash == hash) = some i ↔
      ∃ param, params[i]? = some param ∧ param.typeHash = hash := by
  rw [List.findIdx?_eq_some_iff_getElem]
  constructor
  · rintro ⟨bound, here, -⟩
    exact ⟨params[i], List.getElem?_eq_getElem bound, by simpa using here⟩
  · rintro ⟨param, found, rfl⟩
    obtain ⟨bound, rfl⟩ := List.getElem?_eq_some_iff.mp found
    refine ⟨bound, by simp, fun j before same => ?_⟩
    have := numbered.index_eq few (List.getElem?_eq_getElem (by omega : j < params.length)) found
      (by simpa using same)
    omega

/-- The substitution of an argument list replaces a placeholder by the argument at its position, if
there is one. -/
theorem get?_ofArguments (arguments : List TemplateArgument) {i : Nat} {param : TemplateParameter}
    (found : params[i]? = some param) :
    (Substitution.ofArguments params arguments).get? param.typeHash = arguments[i]? := by
  -- Whatever is entered under this placeholder is the argument at this position.
  have entered : ∀ pair ∈ params.zip arguments, pair.1.typeHash = param.typeHash →
      arguments[i]? = some pair.2 := by
    intro pair member same
    obtain ⟨j, here⟩ := List.mem_iff_getElem?.mp member
    obtain ⟨ofParam, ofArgument⟩ := List.getElem?_zip_eq_some.mp here
    rw [← numbered.index_eq few ofParam found same, ofArgument]
  cases argument : arguments[i]? with
  | none =>
    refine Substitution.get?_insertAll_of_not_mem fun pair member same => ?_
    rw [entered pair member same] at argument
    cases argument
  | some value =>
    refine Substitution.get?_insertAll_of_mem (fun pair member same => ?_) (.inr ?_)
    · rw [entered pair member same] at argument
      exact Option.some.inj argument
    · have paired : (params.zip arguments)[i]? = some (param, value) :=
        List.getElem?_zip_eq_some.mpr ⟨found, argument⟩
      exact ⟨_, List.mem_of_getElem? paired, rfl⟩

end NumberedBy

/-! ## Building templates -/

/-- What can be made of a function template, step by step. -/
inductive FunctionTemplate.Built : FunctionTemplate → Prop where
  | declare (path name : String) (overload : Nat) (backend : FunctionBackend) :
      Built (declare path name overload backend)
  | addParam {t : FunctionTemplate} (built : Built t) (name : String) (kind : TemplateParamKind)
      (default? : Option TemplateDefault) : Built (t.addParam name kind default?)
  | withSignature {t : FunctionTemplate} (built : Built t) (signature : List Param)
      (returnType : DataType) : Built { t with signature, returnType }
  | withOwner {t : FunctionTemplate} (built : Built t) (owner : TypeHash) :
      Built { t with owner := some owner }

/-- What can be made of a class template, step by step. The identity may be replaced at any time. -/
inductive ClassTemplate.Built : ClassTemplate → Prop where
  | declare (path name : String) (backend : ClassBackend) : Built (declare path name backend)
  | addParam {t : ClassTemplate} (built : Built t) (name : String) (kind : TemplateParamKind)
      (default? : Option TemplateDefault) : Built (t.addParam name kind default?)
  | withIdentity {t : ClassTemplate} (built : Built t) (hash : TypeHash) :
      Built (t.withIdentity hash)

theorem FunctionTemplate.Built.numbered {t : FunctionTemplate} (built : t.Built) :
    NumberedBy t.hash t.params := by
  induction built with
  | declare => exact .nil
  | addParam _ _ _ _ ih => exact ih.concat rfl
  | withSignature _ _ _ ih => exact ih
  | withOwner _ _ ih => exact ih

theorem ClassTemplate.Built.numbered {t : ClassTemplate} (built : t.Built) :
    NumberedBy t.hash t.params := by
  induction built with
  | declare => exact .nil
  | addParam _ _ _ _ ih => exact ih.concat rfl
  | @withIdentity t _ hash _ => exact .renumbered hash t.params

/-- **Placeholders of one template are distinct and lead back to their parameters.** However a
template was built, as long as it has no more parameters than there are identities: no two
parameters have the same placeholder, the position of a placeholder is that of its parameter, and
the substitution of an argument list has for it the argument at that position. -/
theorem placeholders_distinct_and_invertible :
    (∀ t : FunctionTemplate, t.Built → t.params.length ≤ TypeHash.count →
      (t.params.map TemplateParameter.typeHash).Nodup ∧
      (∀ hash i, t.paramIndex? hash = some i ↔
        ∃ param, t.params[i]? = some param ∧ param.typeHash = hash) ∧
      ∀ (arguments : List TemplateArgument) (i : Nat) (param : TemplateParameter),
        t.params[i]? = some param →
        (Substitution.ofArguments t.params arguments).get? param.typeHash = arguments[i]?) ∧
    (∀ t : ClassTemplate, t.Built → t.params.length ≤ TypeHash.count →
      (t.params.map TemplateParameter.typeHash).Nodup ∧
      ∀ (arguments : List TemplateArgument) (i : Nat) (param : TemplateParameter),
        t.params[i]? = some param →
        (Substitution.ofArguments t.params arguments).get? param.typeHash = arguments[i]?) := by
  refine ⟨fun t built few => ?_, fun t built few => ?_⟩
  · exact ⟨built.numbered.nodup few, built.numbered.findIdx?_eq_some_iff few,
      fun arguments _ _ => built.numbered.get?_ofArguments few arguments⟩
  · exact ⟨built.numbered.nodup few,
      fun arguments _ _ => built.numbered.get?_ofArguments few arguments⟩

/-- A function template with a default, and a class template whose identity is replaced between its
parameters. -/
def padTemplate : FunctionTemplate :=
  ((FunctionTemplate.declare "" "pad" 0 (.script 0)).addParam "T" .type none).addParam "N" .integer
    (some (.value (.integer 3)))

def pairIdentity : TypeHash := ⟨7⟩

def pairedTemplate : ClassTemplate :=
  (((ClassTemplate.declare "" "Pair" .elementList).addParam "A" .type none).withIdentity
    pairIdentity).addParam "B" .type none

theorem placeholders_distinct_and_invertible_pair :
    padTemplate.Built ∧ pairedTemplate.Built ∧
      (padTemplate.params.map TemplateParameter.typeHash).Nodup ∧
      padTemplate.paramIndex? (.ofTemplateParam padTemplate.hash 1) = some 1 ∧
      (pairedTemplate.params.map TemplateParameter.typeHash).Nodup ∧
      (Substitution.ofArguments pairedTemplate.params [.bool true, .bool false]).get?
        (.ofTemplateParam pairIdentity 0) = some (.bool true) ∧
      (Substitution.ofArguments pairedTemplate.params [.bool true, .bool false]).get?
        (.ofTemplateParam pairIdentity 1) = some (.bool false) := by
  have pad : padTemplate.Built := ((FunctionTemplate.Built.declare ..).addParam ..).addParam ..
  have pair : pairedTemplate.Built :=
    (((ClassTemplate.Built.declare ..).addParam ..).withIdentity _).addParam ..
  obtain ⟨functions, classes⟩ := placeholders_distinct_and_invertible
  obtain ⟨padDistinct, padIndex, -⟩ := functions padTemplate pad (by decide)
  obtain ⟨pairDistinct, pairMap⟩ := classes pairedTemplate pair (by decide)
  exact ⟨pad, pair, padDistinct, (padIndex _ _).mpr ⟨_, rfl, rfl⟩, pairDistinct,
    pairMap _ 0 _ rfl, pairMap _ 1 _ rfl⟩

end ScriptSemantics
