import ScriptSemantics.Proofs.Registry.Operations

/-!
# Refused Operations

What is left behind by an operation on a registry that was refused. An operation on a single entry
looks at everything first and writes afterwards, so it leaves the registry as it was. A template is
an exception: its placeholders are registered before the owner is looked at, and one placeholder
before the next one. What has entered by then stays.

The main statement is `refused_leaves_iff`: besides such placeholders nothing changes, and it says
exactly when there are none.
-/

namespace ScriptSemantics

variable {r r' : Registry} {e : RegistrationError}

/-! ## Refusals of an action -/

theorem exec_eq_error_of_discard {α : Type} {action : RegistryM α}
    (refused : exec (discard action) r = (.error e, r')) : exec action r = (.error e, r') := by
  rw [exec_discard] at refused
  rcases ran : exec action r with ⟨e' | a, after⟩
  · rw [ran] at refused
    cases refused
    rfl
  · rw [ran] at refused
    cases refused

namespace Registry

theorem eq_of_registerType_refused {decl : TypeDecl}
    (refused : exec (registerType decl) r = (.error e, r')) : r' = r := by
  rw [exec_registerType] at refused
  cases known : r.type? decl.hash with
  | none =>
    rw [known] at refused
    cases refused
  | some existing =>
    rw [known] at refused
    exact (congrArg Prod.snd refused).symm

theorem eq_of_registerFunction_refused {f : FunctionDecl}
    (refused : exec (registerFunction f) r = (.error e, r')) : r' = r := by
  rw [exec_registerFunction] at refused
  split at refused
  · exact (congrArg Prod.snd refused).symm
  · -- The owner is looked at before the class is changed.
    cases owned : f.owner with
    | none =>
      rw [owned] at refused
      cases refused
    | some owner =>
      rw [owned] at refused
      simp only at refused
      split at refused
      · exact (congrArg Prod.snd refused).symm
      · cases refused

theorem eq_of_updateFunction_refused {f : FunctionDecl}
    (refused : exec (updateFunction f) r = (.error e, r')) : r' = r := by
  rw [exec_updateFunction] at refused
  split at refused
  · cases refused
  · exact (congrArg Prod.snd refused).symm

theorem eq_of_registerGlobal_refused {g : GlobalDecl}
    (refused : exec (registerGlobal g) r = (.error e, r')) : r' = r := by
  rw [exec_registerGlobal] at refused
  split at refused
  · exact (congrArg Prod.snd refused).symm
  · cases refused

theorem eq_of_addUsing_refused {source target : String}
    (refused : exec (addUsing source target) r = (.error e, r')) : r' = r := by
  rw [exec_addUsing] at refused
  cases found : r.namespaces.getPath? target with
  | none =>
    rw [found] at refused
    exact (congrArg Prod.snd refused).symm
  | some node =>
    rw [found] at refused
    cases refused

/-! Templates leave the placeholders that have entered, unless their identity is taken. -/

theorem eq_of_registerClassTemplate_refused {t : ClassTemplate}
    (refused : exec (registerClassTemplate t) r = (.error e, r')) :
    r' = if (r.classTemplate? t.hash).isSome then r
      else r.withPlaceholders (r.entering t.placeholders) := by
  rw [exec_registerClassTemplate] at refused
  split at refused
  · rename_i taken
    rw [if_pos taken]
    exact (congrArg Prod.snd refused).symm
  · rename_i free
    rw [if_neg free, ← exec_registerPlaceholders_snd]
    rcases placing : exec (registerPlaceholders t.placeholders) r with ⟨e' | _, placed⟩
    · rw [placing] at refused
      exact (congrArg Prod.snd refused).symm
    · rw [placing] at refused
      cases refused

theorem eq_of_registerFunctionTemplate_refused {t : FunctionTemplate}
    (refused : exec (registerFunctionTemplate t) r = (.error e, r')) :
    r' = if (r.functionTemplate? t.hash).isSome then r
      else r.withPlaceholders (r.entering t.placeholders) := by
  rw [exec_registerFunctionTemplate] at refused
  split at refused
  · rename_i taken
    rw [if_pos taken]
    exact (congrArg Prod.snd refused).symm
  · rename_i free
    rw [if_neg free, ← exec_registerPlaceholders_snd]
    rcases placing : exec (registerPlaceholders t.placeholders) r with ⟨e' | _, placed⟩
    · rw [placing] at refused
      exact (congrArg Prod.snd refused).symm
    · -- All placeholders have entered when the owner turns out to be none.
      rw [placing] at refused
      cases owned : t.owner with
      | none =>
        rw [owned] at refused
        cases refused
      | some owner =>
        rw [owned] at refused
        simp only at refused
        split at refused
        · exact (congrArg Prod.snd refused).symm
        · cases refused

end Registry

/-! ## Refusals of an operation -/

namespace RegistryOp

/-- The placeholders that an operation registers ahead of anything else it looks at: those of a
template whose identity is free. -/
def announced (r : Registry) : RegistryOp → List Placeholder
  | registerFunctionTemplate t =>
    if (r.functionTemplate? t.hash).isSome then [] else t.placeholders
  | registerClassTemplate t => if (r.classTemplate? t.hash).isSome then [] else t.placeholders
  | _ => []

/-- The placeholders that have entered are all that a refused operation leaves behind. -/
theorem eq_of_refused {op : RegistryOp} (refused : exec op.action r = (.error e, r')) :
    r' = r.withPlaceholders (r.entering (op.announced r)) := by
  have nothing : r = r.withPlaceholders (r.entering []) := r.withPlaceholders_nil.symm
  cases op with
  | registerType decl =>
    exact (Registry.eq_of_registerType_refused (exec_eq_error_of_discard refused)).trans nothing
  | registerFunction f =>
    exact (Registry.eq_of_registerFunction_refused (exec_eq_error_of_discard refused)).trans nothing
  | updateFunction f =>
    exact (Registry.eq_of_updateFunction_refused refused).trans nothing
  | registerGlobal g =>
    exact (Registry.eq_of_registerGlobal_refused (exec_eq_error_of_discard refused)).trans nothing
  | addUsing source target =>
    exact (Registry.eq_of_addUsing_refused refused).trans nothing
  | registerFunctionTemplate t =>
    rw [Registry.eq_of_registerFunctionTemplate_refused (exec_eq_error_of_discard refused)]
    rw [announced]
    split
    · exact nothing
    · rfl
  | registerClassTemplate t =>
    rw [Registry.eq_of_registerClassTemplate_refused (exec_eq_error_of_discard refused)]
    rw [announced]
    split
    · exact nothing
    · rfl
  | intern | removeType | removeFunction | setFunctionBackend | setClassBackend =>
    -- These are never refused.
    cases refused

/-- **What a refused operation leaves behind.** Functions, templates, variables, built-in operators
and namespaces are as before, and behind the types stand the placeholders that have entered. So the
registry is as before if and only if none has: always, unless the operation registers a template
with a free identity; and then exactly if the first of its placeholders that is not registered yet
finds its identity taken. -/
theorem refused_leaves_iff {op : RegistryOp} (refused : exec op.action r = (.error e, r')) :
    r' = r.withPlaceholders (r.entering (op.announced r)) ∧
      (r' = r ↔ ∀ p, (op.announced r).find?
        (fun p => r.type? p.hash ≠ some (.placeholder p)) = some p → (r.type? p.hash).isSome) := by
  have left := eq_of_refused refused
  refine ⟨left, ?_⟩
  rw [left, Registry.withPlaceholders_eq_self_iff, Registry.entering_eq_nil_iff]

/-! A function template that names no class as its owner, and a class template whose second
placeholder has an identity that a class has taken. -/

def strayTemplate : FunctionTemplate :=
  { FunctionTemplate.declare "" "swap" 0 (.script 0) with owner := some (.ofName "Ghost") }.addParam
    "T" .type

def pairTemplate : ClassTemplate :=
  ((ClassTemplate.declare "" "Pair" .elementList).addParam "A" .type).addParam "B" .type

/-- A class under the identity of the second placeholder of `Pair`. -/
def intruder : ClassDecl :=
  { ClassDecl.declare "" "X" with hash := .ofTemplateParam pairTemplate.hash 1 }

def intruded : Registry := (registerType (.classType intruder)).run .withBuiltins

/-- The placeholder of the stray template. -/
def strayParam : Placeholder where
  hash := .ofTemplateParam strayTemplate.hash 0
  name := "T"
  owner := strayTemplate.hash
  index := 0
  kind := .type

/-- The stray template is refused, and its placeholder stays; the namespaces do not change. -/
theorem refused_leaves_iff_stray :
    ∃ e after, exec (registerFunctionTemplate strayTemplate).action Registry.withBuiltins =
        (.error e, after) ∧ after ≠ Registry.withBuiltins ∧
      after.namespaces = Registry.withBuiltins.namespaces := by
  have refused : (exec (registerFunctionTemplate strayTemplate).action
      Registry.withBuiltins).1.toOption = none := by decide +kernel
  have first : ((registerFunctionTemplate strayTemplate).announced Registry.withBuiltins).find?
      (fun p => Registry.withBuiltins.type? p.hash ≠ some (.placeholder p)) = some strayParam := by
    decide +kernel
  have free : Registry.withBuiltins.type? strayParam.hash = none := by decide +kernel
  rcases ran : exec (registerFunctionTemplate strayTemplate).action Registry.withBuiltins
    with ⟨e | _, after⟩
  · obtain ⟨left, unchanged⟩ := refused_leaves_iff ran
    refine ⟨e, after, rfl, ?_, ?_⟩
    · intro same
      have taken := unchanged.1 same strayParam first
      rw [free] at taken
      cases taken
    · rw [left, Registry.namespaces_withPlaceholders]
  · rw [ran] at refused
    cases refused

/-- Refused templates leave placeholders in the registry: the function template without an owner its
only one, the class template the one in front of the refused one. -/
theorem refused_templates_leave_placeholders :
    let stray := exec (registerFunctionTemplate strayTemplate).action Registry.withBuiltins
    let pair := exec (registerClassTemplate pairTemplate).action intruded
    let pairParam := TypeHash.ofTemplateParam pairTemplate.hash 0
    stray.1.toOption = none ∧ Registry.withBuiltins.type? strayParam.hash = none ∧
      stray.2.type? strayParam.hash = some (.placeholder strayParam) ∧
      pair.1.toOption = none ∧ intruded.type? pairParam = none ∧
      (pair.2.type? pairParam).isSome := by
  decide +kernel

end RegistryOp

end ScriptSemantics
