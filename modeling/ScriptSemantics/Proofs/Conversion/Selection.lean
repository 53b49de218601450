import Mathlib.Data.List.Basic
import ScriptSemantics.Proofs.Conversion.Comparison

/-!
# Selecting a User-Defined Conversion

Among the candidates for a user-defined conversion that one is selected which beats every other
occurrence in the list. Comparisons turn round when their sides do, so two candidates never beat
each other: there is at most one such occurrence, and where it stands in the list does not matter.
-/

namespace ScriptSemantics

namespace Conversion

variable {c d : Conversion} {found found' : List Conversion}

/-- Two candidates do not beat each other. -/
theorem not_dominates_of_dominates (h : dominates c d) : dominates d c = false := by
  have first : d.first.compare c.first = (c.first.compare d.first).swap := Std.OrientedCmp.eq_swap
  have second : d.second.compare c.second = (c.second.compare d.second).swap :=
    Std.OrientedCmp.eq_swap
  simp only [dominates] at h ⊢
  rw [first, second]
  -- One of the two comparisons is strict, and it stands the other way round on the other side.
  cases hf : c.first.compare d.first <;> cases hs : c.second.compare d.second <;>
    simp_all

/-- The candidate occurs in the list and beats every other occurrence. -/
def Best (found : List Conversion) (c : Conversion) : Prop :=
  ∃ front back, found = front ++ c :: back ∧ ∀ d ∈ front ++ back, dominates c d

/-- The search finds a candidate that beats all others, those set aside in front included. -/
theorem bestFrom?_eq_some_iff {front back : List Conversion} :
    bestFrom? front back = some c ↔
      ∃ before after, back = before ++ c :: after ∧
        ∀ d ∈ front ++ before ++ after, dominates c d := by
  induction back generalizing front with
  | nil => simp [bestFrom?]
  | cons d back ih =>
    rw [bestFrom?]
    split
    · rename_i beats
      rw [List.all_eq_true] at beats
      constructor
      · intro h
        cases h
        exact ⟨[], back, rfl, by simpa using beats⟩
      · -- Any other candidate that beats them all would beat this one, and be beaten by it.
        intro h
        obtain ⟨before, after, split, others⟩ := h
        cases before with
        | nil =>
          cases split
          rfl
        | cons e before =>
          cases split
          have forth := beats c (by simp)
          have back := others d (by simp)
          rw [not_dominates_of_dominates forth] at back
          cases back
    · -- One that loses is set aside, where it stays a rival of all that follow.
      rename_i loses
      rw [ih]
      constructor
      · intro h
        obtain ⟨before, after, rfl, others⟩ := h
        exact ⟨d :: before, after, rfl, by simpa using others⟩
      · intro h
        obtain ⟨before, after, split, others⟩ := h
        cases before with
        | nil =>
          cases split
          refine absurd ?_ loses
          rw [List.all_eq_true]
          simpa using others
        | cons e before =>
          cases split
          exact ⟨before, after, rfl, by simpa using others⟩

/-- The selection finds the best candidate, if there is one. -/
theorem bestFrom?_nil_eq_some_iff : bestFrom? [] found = some c ↔ Best found c := by
  rw [bestFrom?_eq_some_iff]
  rfl

theorem Best.perm (perm : found.Perm found') (best : Best found c) : Best found' c := by
  obtain ⟨front, back, rfl, others⟩ := best
  have member : c ∈ found' := perm.subset (by simp)
  obtain ⟨front', back', rfl⟩ := List.append_of_mem member
  refine ⟨front', back', rfl, ?_⟩
  -- Without the candidate itself the rest is the same on both sides.
  have moved : (c :: (front ++ back)).Perm (c :: (front' ++ back')) :=
    (List.perm_middle.symm.trans perm).trans List.perm_middle
  intro d other
  exact others d (moved.cons_inv.symm.subset other)

/-- The order of the candidates does not matter. -/
theorem bestFrom?_perm (perm : found.Perm found') : bestFrom? [] found = bestFrom? [] found' := by
  apply Option.ext
  intro c
  rw [bestFrom?_nil_eq_some_iff, bestFrom?_nil_eq_some_iff]
  exact ⟨.perm perm, .perm perm.symm⟩

end Conversion

end ScriptSemantics
