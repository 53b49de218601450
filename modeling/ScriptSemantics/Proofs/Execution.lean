import ScriptSemantics.Session.Basic

/-!
# Running Actions

Actions on a registry and on a session are state transformers that may fail and keep their state
when they do. This file runs them: `exec` gives the outcome of an action together with the state it
leaves behind, with one equation for each way to put actions together.

An action *respects* a relation on states if it always leads to a related state. For a reflexive and
transitive relation this passes from the parts of an action to the whole, whatever the outcomes of
the parts are.
-/

namespace ScriptSemantics

variable {σ ε ε' α β : Type}

/-- Outcome of an action, and the state it leaves behind. -/
def exec (action : ExceptT ε (StateM σ) α) (s : σ) : Except ε α × σ := action.run.run s

/-! ## Equations -/

section Equations

variable (s : σ)

@[simp] theorem exec_pure (a : α) : exec (pure a : ExceptT ε (StateM σ) α) s = (.ok a, s) := rfl

@[simp] theorem exec_throw (e : ε) :
    exec (throw e : ExceptT ε (StateM σ) α) s = (.error e, s) := rfl

@[simp] theorem exec_get : exec (get : ExceptT ε (StateM σ) σ) s = (.ok s, s) := rfl

@[simp] theorem exec_set (s' : σ) :
    exec (set s' : ExceptT ε (StateM σ) PUnit) s = (.ok ⟨⟩, s') := rfl

@[simp] theorem exec_modify (change : σ → σ) :
    exec (modify change : ExceptT ε (StateM σ) PUnit) s = (.ok ⟨⟩, change s) := rfl

/-- The second action runs on what the first one leaves behind, unless the first one fails. -/
theorem exec_bind (x : ExceptT ε (StateM σ) α) (f : α → ExceptT ε (StateM σ) β) :
    exec (x >>= f) s =
      match exec x s with
      | (.ok a, s') => exec (f a) s'
      | (.error e, s') => (.error e, s') := by
  show ((x >>= f).run.run s : Except ε β × σ) = _
  simp only [exec, ExceptT.run_bind, StateT.run_bind]
  rcases x.run.run s with ⟨outcome | outcome, s'⟩ <;> rfl

theorem exec_bind_ok {x : ExceptT ε (StateM σ) α} {f : α → ExceptT ε (StateM σ) β} {a : α}
    {s s' : σ} (h : exec x s = (.ok a, s')) : exec (x >>= f) s = exec (f a) s' := by
  rw [exec_bind, h]

theorem exec_bind_error {x : ExceptT ε (StateM σ) α} {f : α → ExceptT ε (StateM σ) β} {e : ε}
    {s s' : σ} (h : exec x s = (.error e, s')) : exec (x >>= f) s = (.error e, s') := by
  rw [exec_bind, h]

theorem exec_discard (x : ExceptT ε (StateM σ) α) :
    exec (discard x) s = ((exec x s).1.map fun _ => ⟨⟩, (exec x s).2) := by
  show (((fun _ => PUnit.unit) <$> x).run.run s : Except ε PUnit × σ) = _
  simp only [exec, ExceptT.run_map, StateT.run_map]
  rfl

end Equations

/-! ## Inversion -/

/-- A sequence succeeds only if both parts do. -/
theorem exec_bind_eq_ok {x : ExceptT ε (StateM σ) α} {f : α → ExceptT ε (StateM σ) β} {b : β}
    {s s'' : σ} (h : exec (x >>= f) s = (.ok b, s'')) :
    ∃ a s', exec x s = (.ok a, s') ∧ exec (f a) s' = (.ok b, s'') := by
  rw [exec_bind] at h
  rcases hx : exec x s with ⟨e | a, s'⟩
  · rw [hx] at h
    cases h
  · rw [hx] at h
    exact ⟨a, s', rfl, h⟩

/-! ## Respecting a relation -/

/-- Wherever the action starts, it ends in a related state, with whatever outcome. -/
def Respects (R : σ → σ → Prop) (action : ExceptT ε (StateM σ) α) : Prop :=
  ∀ s, R s (exec action s).2

namespace Respects

variable {R : σ → σ → Prop}

theorem pure (refl : ∀ s, R s s) (a : α) :
    Respects R (Pure.pure a : ExceptT ε (StateM σ) α) := fun s => refl s

theorem throw (refl : ∀ s, R s s) (e : ε) :
    Respects R (MonadExcept.throw e : ExceptT ε (StateM σ) α) := fun s => refl s

theorem bind (trans : ∀ a b c, R a b → R b c → R a c) {x : ExceptT ε (StateM σ) α}
    {f : α → ExceptT ε (StateM σ) β} (hx : Respects R x) (hf : ∀ a, Respects R (f a)) :
    Respects R (x >>= f) := by
  intro s
  rw [exec_bind]
  have hs := hx s
  rcases h : exec x s with ⟨e | a, s'⟩
  · rw [h] at hs
    exact hs
  · rw [h] at hs
    exact trans _ _ _ hs (hf a s')

theorem modify {change : σ → σ} (h : ∀ s, R s (change s)) :
    Respects R (modify change : ExceptT ε (StateM σ) PUnit) := fun s => h s

/-- Reading the state changes nothing. -/
theorem get_bind {f : σ → ExceptT ε (StateM σ) β} (hf : ∀ a, Respects R (f a)) :
    Respects R (get >>= f) := by
  intro s
  rw [exec_bind_ok (exec_get s)]
  exact hf s s

theorem discard {x : ExceptT ε (StateM σ) α} (hx : Respects R x) :
    Respects R (Functor.discard x) := by
  intro s
  rw [exec_discard]
  exact hx s

end Respects

/-! ## Session actions -/

section SessionActions

variable (s : Session)

@[simp] theorem exec_attempt (action : SessionT ε α) :
    exec (attempt action : SessionT ε' (Except ε α)) s =
      (.ok (exec action s).1, (exec action s).2) := rfl

@[simp] theorem exec_instantiating (action : InstantiationM α) :
    exec (instantiating action) s =
      ((exec action s).1.mapError TemplateError.toSemantic, (exec action s).2) := by
  rfl

@[simp] theorem exec_ofExcept (outcome : Except ε α) :
    exec (ofExcept outcome : SessionT ε α) s = (outcome, s) := by
  cases outcome <;> rfl

@[simp] theorem exec_ofHost (template : TypeHash) (answer : Except String α) :
    exec (ofHost template answer) s = (answer.mapError (.instantiationFailed template), s) := by
  cases answer <;> rfl

/-- An action on the registry changes the registry of the session only. -/
@[simp] theorem exec_registering (template : TypeHash) (action : RegistryM α) :
    exec (registering template action) s =
      ((exec action s.registry).1.mapError (.registration template),
        { s with registry := (exec action s.registry).2 }) := by
  rcases ran : exec action s.registry with ⟨outcome, r⟩
  have run : action.run.run s.registry = (outcome, r) := ran
  rw [registering, exec_bind_ok (exec_get s)]
  simp only [run]
  rw [exec_bind_ok (exec_set s _)]
  cases outcome <;> rfl

end SessionActions

namespace Respects

variable {R : Session → Session → Prop}

theorem attempt {action : SessionT ε α} (h : Respects R action) :
    Respects R (attempt action : SessionT ε' (Except ε α)) := fun s => h s

theorem instantiating {action : InstantiationM α} (h : Respects R action) :
    Respects R (instantiating action) := by
  intro s
  rw [exec_instantiating]
  exact h s

end Respects

end ScriptSemantics
