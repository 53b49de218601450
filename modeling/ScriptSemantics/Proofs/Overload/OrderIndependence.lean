import Mathlib
import ScriptSemantics.Overload.Resolution

/-!
# Order Independence of Overload Resolution

A call may list its candidates in any order, with repetitions: the verdict is the same.

Dominance compares two candidates at a time and is not transitive, so nothing is gained from an
order on candidates. The argument runs along the stages of a resolution instead. Each stage only
filters and counts:

1. the viable candidates of a permuted list are a permutation of the viable ones;
2. whether a candidate is unbeaten depends on the viable ones as a collection only;
3. the rivals of a lone unbeaten candidate are again a filtered collection;
4. a tie is sorted by position for display, and sorting permutes.

The main statement is `resolve_perm`.
-/

namespace ScriptSemantics

/-! ## Agreement of verdicts -/

/-- Two selections agree: the same winner, ties between the same candidates, or nothing at all. -/
inductive Selection.Agree : Selection → Selection → Prop where
  /-- One candidate wins on both sides. -/
  | winner (candidate : Candidate) : Agree (.winner candidate) (.winner candidate)
  /-- The same candidates are tied, each as often as on the other side. -/
  | tied {candidates candidates' : List Candidate} (perm : candidates.Perm candidates') :
      Agree (.tied candidates) (.tied candidates')
  | empty : Agree .empty .empty

/-- Two verdicts agree: the same match, no viable candidate, or ties between the same functions. -/
inductive ResolutionOutcome.Agree : ResolutionOutcome → ResolutionOutcome → Prop where
  /-- The match is the same in all its parts. -/
  | succeeded (found : OverloadMatch) : Agree (.succeeded found) (.succeeded found)
  | noViableCandidate : Agree .noViableCandidate .noViableCandidate
  /-- The same functions are tied, each as often as on the other side. -/
  | ambiguous {tied tied' : List TypeHash} (perm : tied.Perm tied') :
      Agree (.ambiguous tied) (.ambiguous tied')

/-! ## Selection -/

namespace Candidate

/-- Whether a candidate is unbeaten depends on its competitors as a collection. -/
theorem unbeaten_perm (mode : ImplicitObject) {viable viable' : List Candidate}
    (h : viable.Perm viable') : (unbeaten mode viable).Perm (unbeaten mode viable') := by
  unfold unbeaten
  have sameTest : ∀ c ∈ viable,
      (!viable.any fun d => dominates mode d c) = !viable'.any fun d => dominates mode d c := by
    intro c _
    rw [h.any_eq]
  rw [List.filter_congr sameTest]
  exact h.filter _

end Candidate

namespace Selection

/-- The candidates that `best` does not dominate, itself included. -/
def rivals (mode : ImplicitObject) (best : Candidate) (viable : List Candidate) :
    List Candidate :=
  viable.filter fun c => !Candidate.dominates mode best c

variable {mode : ImplicitObject} {viable : List Candidate} {best : Candidate}

/-! The branches of a selection, one equation each. -/

theorem ofViable_of_unbeaten_nil (hne : viable ≠ [])
    (h : Candidate.unbeaten mode viable = []) : ofViable mode viable = .tied viable := by
  obtain ⟨c, cs, rfl⟩ := List.exists_cons_of_ne_nil hne
  simp only [ofViable, h]

theorem ofViable_of_lone_winner (h : Candidate.unbeaten mode viable = [best])
    (hlen : (rivals mode best viable).length = 1) : ofViable mode viable = .winner best := by
  obtain ⟨c, hc⟩ := List.length_eq_one_iff.mp hlen
  cases viable with
  | nil => exact absurd hlen (by simp [rivals])
  | cons d ds =>
    rw [rivals] at hc
    simp only [ofViable, h, hc]

theorem ofViable_of_lone_tied (h : Candidate.unbeaten mode viable = [best])
    (hlen : (rivals mode best viable).length ≠ 1) :
    ofViable mode viable = .tied (rivals mode best viable) := by
  cases viable with
  | nil => exact absurd h (by simp [Candidate.unbeaten])
  | cons d ds =>
    simp only [ofViable, h]
    split
    · rename_i c hc
      exact absurd (congrArg List.length hc) hlen
    · rfl

theorem ofViable_of_several (h : 2 ≤ (Candidate.unbeaten mode viable).length) :
    ofViable mode viable = .tied (Candidate.unbeaten mode viable) := by
  cases viable with
  | nil => exact absurd h (by simp [Candidate.unbeaten])
  | cons d ds =>
    match hu : Candidate.unbeaten mode (d :: ds) with
    | [] => rw [hu] at h; exact absurd h (by simp)
    | [_] => rw [hu] at h; exact absurd h (by simp)
    | _ :: _ :: _ => simp only [ofViable, hu]

/-- Selection does not depend on the order of the viable candidates. -/
theorem ofViable_perm (mode : ImplicitObject) {viable viable' : List Candidate}
    (h : viable.Perm viable') : Agree (ofViable mode viable) (ofViable mode viable') := by
  have hunbeaten := Candidate.unbeaten_perm mode h
  -- By the number of unbeaten candidates, which is the same on both sides.
  match hu : Candidate.unbeaten mode viable with
  | [] =>
    rw [hu] at hunbeaten
    have hu' := hunbeaten.nil_eq.symm
    -- Everybody is beaten by somebody, or there is nobody.
    by_cases hne : viable = []
    · subst hne
      rw [h.nil_eq.symm]
      exact .empty
    · have hne' : viable' ≠ [] := fun hnil => hne (hnil ▸ h).eq_nil
      rw [ofViable_of_unbeaten_nil hne hu, ofViable_of_unbeaten_nil hne' hu']
      exact .tied h
  | [best] =>
    rw [hu] at hunbeaten
    have hu' := List.singleton_perm.mp hunbeaten
    -- The rivals are a filtered collection too, so they are as many on both sides.
    have hrivals : (rivals mode best viable).Perm (rivals mode best viable') := h.filter _
    by_cases hlen : (rivals mode best viable).length = 1
    · rw [ofViable_of_lone_winner hu hlen,
        ofViable_of_lone_winner hu'.symm (hrivals.length_eq ▸ hlen)]
      exact .winner best
    · rw [ofViable_of_lone_tied hu hlen,
        ofViable_of_lone_tied hu'.symm (hrivals.length_eq ▸ hlen)]
      exact .tied hrivals
  | first :: second :: rest =>
    have hlen : 2 ≤ (Candidate.unbeaten mode viable).length := by rw [hu]; simp
    rw [ofViable_of_several hlen, ofViable_of_several (hunbeaten.length_eq ▸ hlen)]
    exact .tied hunbeaten

end Selection

/-! ## Resolution -/

namespace Resolution

/-- Listing tied functions by position only rearranges them. -/
theorem inCandidateOrder_perm (candidates functions : List TypeHash) :
    (inCandidateOrder candidates functions).Perm functions :=
  List.mergeSort_perm functions _

/-- Verdicts of selections that agree, agree, whatever order their ties are listed in. -/
theorem outcomeOf_agree (candidates candidates' : List TypeHash) {s s' : Selection}
    (h : s.Agree s') : (outcomeOf candidates s).Agree (outcomeOf candidates' s') := by
  cases h with
  | winner c => exact .succeeded _
  | empty => exact .noViableCandidate
  | tied perm =>
    apply ResolutionOutcome.Agree.ambiguous
    exact (inCandidateOrder_perm _ _).trans <|
      (perm.map Candidate.function).trans (inCandidateOrder_perm _ _).symm

/-- **Order independence**: permuting the candidates of a call, repetitions included, changes
neither the verdict nor, up to their order, the reports on the candidates. -/
theorem resolve_perm (r : Registry) (mode : ImplicitObject) (arguments : Arguments)
    {candidates candidates' : List TypeHash} (h : candidates.Perm candidates') :
    (resolve r mode candidates arguments).outcome.Agree
        (resolve r mode candidates' arguments).outcome
      ∧ (resolve r mode candidates arguments).reports.Perm
          (resolve r mode candidates' arguments).reports := by
  constructor
  · apply outcomeOf_agree
    apply Selection.ofViable_perm
    exact h.filterMap _
  · exact h.map _

/-- Two functions without parameters that differ in their result only. -/
def nullaryPair : Registry where
  functions := { entries := [
    (⟨1⟩, { hash := ⟨1⟩, name := "foo" }),
    (⟨2⟩, { hash := ⟨2⟩, name := "foo", returnType := .simple ⟨3⟩ })] }

/-- The two functions tie with each other in either order, and the unknown third candidate is
reported wherever it stands. -/
theorem resolve_perm_nullaryPair :
    [⟨1⟩, ⟨2⟩, ⟨9⟩].Perm [⟨9⟩, ⟨2⟩, (⟨1⟩ : TypeHash)]
      ∧ (resolve nullaryPair .none [⟨1⟩, ⟨2⟩, ⟨9⟩] (.types [])).outcome.Agree
          (resolve nullaryPair .none [⟨9⟩, ⟨2⟩, ⟨1⟩] (.types [])).outcome
      ∧ (resolve nullaryPair .none [⟨1⟩, ⟨2⟩, ⟨9⟩] (.types [])).tied = [⟨1⟩, ⟨2⟩]
      ∧ (resolve nullaryPair .none [⟨9⟩, ⟨2⟩, ⟨1⟩] (.types [])).tied = [⟨2⟩, ⟨1⟩] := by
  have perm : [⟨1⟩, ⟨2⟩, ⟨9⟩].Perm [⟨9⟩, ⟨2⟩, (⟨1⟩ : TypeHash)] := by decide
  refine ⟨perm, (resolve_perm nullaryPair .none (.types []) perm).1, ?_, ?_⟩
  · cbv
  · cbv

end Resolution

end ScriptSemantics
