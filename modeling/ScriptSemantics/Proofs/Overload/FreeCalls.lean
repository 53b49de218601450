import ScriptSemantics.Proofs.Overload.Acyclicity

/-!
# Calls Without an Object

What keeps dominance from being transitive is the lead. A call on no object has none: every slot of
every candidate holds an initialization of the argument at its position, and at each position the
candidates are compared by a total preorder. Dominance is then the strict part of "at no position
worse", and with that a strict order.

A strict order on finitely many candidates puts an unbeaten one above every other, which settles the
two ends of a selection. A lone unbeaten candidate is above all others and wins. Where several are
unbeaten, the tie names these and nobody else, and whoever is left out of it is dominated by one of
those in it.

Main results: `Candidate.Dominates.trans_of_free`, `Resolution.exists_unbeaten_above` and
`Resolution.free_call_ordered`.
-/

namespace ScriptSemantics

/-! ## The order -/

namespace Candidate

variable {arguments : List Argument} {a b c : Candidate}

/-- Without a lead, dominance is the strict part of "at no position worse". -/
theorem dominates_free_iff (ha : Aligned .none arguments a) (hb : Aligned .none arguments b) :
    Dominates .none a b ↔ RestNotWorse .none a b ∧ ¬RestNotWorse .none b a := by
  constructor
  · intro h
    obtain ⟨rest, lead⟩ := h.lexicographic ha hb
    refine ⟨rest, fun back => ?_⟩
    obtain ⟨x, -, noLead, -⟩ := lead back
    cases noLead
  · rintro ⟨rest, notBack⟩
    -- Somewhere the way back is a loss, and there the way forth is a gain.
    obtain ⟨i, x, y, -, hx, hy, gt⟩ : ∃ i x y, behindLead .none ≤ i ∧ b.slots[i]? = some x ∧
        a.slots[i]? = some y ∧ x.compare y = .gt := by
      simpa [RestNotWorse] using notBack
    have lt : y.compare x = .lt := Std.OrientedCmp.gt_iff_lt.mp gt
    refine ⟨fun order compared => ?_, lt ▸ .position hy hx⟩
    cases compared with
    | position hx hy => exact rest _ _ _ (Nat.zero_le _) hx hy

theorem Dominates.trans_of_free (ha : Aligned .none arguments a) (hb : Aligned .none arguments b)
    (hc : Aligned .none arguments c) (h : Dominates .none a b) (h' : Dominates .none b c) :
    Dominates .none a c := by
  rw [dominates_free_iff ha hb] at h
  rw [dominates_free_iff hb hc] at h'
  rw [dominates_free_iff ha hc]
  refine ⟨h.1.trans ha hb hc h'.1, fun back => ?_⟩
  -- If nothing were lost from end to end, nothing would be lost on the second half.
  exact h'.2 (back.trans hc ha hb h.1)

end Candidate

/-! ## The selection -/

namespace Resolution

open Candidate

variable {r : Registry} {candidates : List TypeHash} {arguments : Arguments}

/-- Every viable candidate is unbeaten or dominated by an unbeaten one. -/
theorem exists_unbeaten_above {c : Candidate} (h : c ∈ viable r .none candidates arguments) :
    ∃ d ∈ unbeaten .none (viable r .none candidates arguments), d = c ∨ Dominates .none d c := by
  -- Of the candidate and all that dominate it, take a first one.
  obtain ⟨⟨d, hd⟩, above, first⟩ := (wellFounded_precedes r .none candidates arguments).has_min
    { d | d.1 = c ∨ Dominates .none d.1 c } ⟨⟨c, h⟩, .inl rfl⟩
  refine ⟨d, mem_unbeaten.mpr ⟨hd, fun e he dominates => ?_⟩, above⟩
  have aboveToo : e = c ∨ Dominates .none e c := by
    rcases above with rfl | dominated
    · exact .inr dominates
    · exact .inr (dominates.trans_of_free (aligned_of_mem_viable he) (aligned_of_mem_viable hd)
        (aligned_of_mem_viable h) dominated)
  exact first ⟨e, he⟩ aboveToo (precedes_of_dominatesIn ⟨he, hd, dominates⟩)

/-- A lone unbeaten candidate dominates all others, so it has no rival but itself. -/
theorem rivals_of_lone {best : Candidate}
    (lone : unbeaten .none (viable r .none candidates arguments) = [best]) :
    Selection.rivals .none best (viable r .none candidates arguments) = [best] := by
  rw [← lone, Selection.rivals, unbeaten]
  refine List.filter_congr fun c hc => ?_
  rw [Bool.eq_iff_iff, Bool.not_eq_true', Bool.not_eq_true', Bool.eq_false_iff, ne_eq,
    dominates_iff, List.any_eq_false]
  constructor
  · intro undominated d hd
    -- Above the candidate stands an unbeaten one, which is the lone one.
    obtain ⟨top, unbeaten, above⟩ := exists_unbeaten_above hc
    rw [lone, List.mem_singleton] at unbeaten
    subst unbeaten
    rcases above with rfl | dominated
    · have := lone ▸ List.mem_singleton_self top
      rw [dominates_iff]
      exact (mem_unbeaten.mp this).2 d hd
    · exact absurd dominated undominated
  · intro unbeaten
    have present : best ∈ viable r .none candidates arguments :=
      (unbeaten_sublist .none _).subset (lone ▸ List.mem_singleton_self best)
    rw [← dominates_iff]
    exact unbeaten best present

theorem ofViable_of_lone {best : Candidate}
    (lone : unbeaten .none (viable r .none candidates arguments) = [best]) :
    Selection.ofViable .none (viable r .none candidates arguments) = .winner best :=
  Selection.ofViable_of_lone_winner lone (by rw [rivals_of_lone lone]; rfl)

/-- A tie is one between all unbeaten candidates. -/
theorem eq_unbeaten_of_tied {tied : List Candidate}
    (h : Selection.ofViable .none (viable r .none candidates arguments) = .tied tied) :
    tied = unbeaten .none (viable r .none candidates arguments) := by
  match hu : unbeaten .none (viable r .none candidates arguments) with
  | [] =>
    -- Then there is no viable candidate at all, and no tie.
    have none : viable r .none candidates arguments = [] := by
      by_contra someViable
      exact unbeaten_ne_nil someViable hu
    rw [none] at h
    cases h
  | [best] => cases h.symm.trans (ofViable_of_lone hu)
  | first :: second :: rest =>
    have several : 2 ≤ (unbeaten .none (viable r .none candidates arguments)).length := by
      simp [hu]
    rw [Selection.ofViable_of_several several, hu] at h
    cases h
    rfl

/-! ## The order of a tie -/

/-- Viable candidates stand in the order in which the call lists their functions. -/
theorem functions_viable_sublist (functions : r.SoundFunctions) (mode : ImplicitObject)
    (candidates : List TypeHash) (arguments : Arguments) :
    ((viable r mode candidates arguments).map Candidate.function).Sublist candidates := by
  induction candidates with
  | nil => exact .slnil
  | cons hash candidates ih =>
    cases verdict : evaluate r mode arguments hash with
    | error e => simpa [viable, verdict, Except.toOption] using ih.cons hash
    | ok c =>
      obtain ⟨f, found, fits⟩ := evaluate_eq_ok verdict
      have same : c.function = hash := fits.function.trans (functions hash f found)
      rw [viable_cons verdict, List.map_cons, same]
      exact ih.cons_cons hash

/-- Functions that are listed in the order of the candidates stay as they are. -/
theorem inCandidateOrder_of_sublist {candidates functions : List TypeHash}
    (distinct : candidates.Nodup) (h : functions.Sublist candidates) :
    inCandidateOrder candidates functions = functions := by
  refine List.mergeSort_of_pairwise (List.Pairwise.sublist h ?_)
  rw [List.pairwise_iff_getElem]
  intro i j hi hj before
  rw [distinct.idxOf_getElem i hi, distinct.idxOf_getElem j hj]
  exact decide_eq_true before.le

/-- **Calls on no object are decided by a strict order**: dominance is irreflexive and transitive
among the viable candidates, so a lone unbeaten candidate wins. An ambiguous call names exactly the
unbeaten ones, in the order of the candidates if these are distinct, and every viable candidate that
it does not name is dominated by one that it names. -/
theorem free_call_ordered (functions : r.SoundFunctions) (candidates : List TypeHash)
    (arguments : Arguments) :
    (∀ c ∈ viable r .none candidates arguments, dominates .none c c = false) ∧
      (∀ a ∈ viable r .none candidates arguments, ∀ b ∈ viable r .none candidates arguments,
        ∀ c ∈ viable r .none candidates arguments,
          dominates .none a b → dominates .none b c → dominates .none a c) ∧
      (∀ best, unbeaten .none (viable r .none candidates arguments) = [best] →
        (resolve r .none candidates arguments).outcome = .succeeded (matchOf best)) ∧
      ∀ tied, (resolve r .none candidates arguments).outcome = .ambiguous tied →
        tied.Perm ((unbeaten .none (viable r .none candidates arguments)).map function) ∧
          (candidates.Nodup → tied.Sublist candidates ∧
            tied = (unbeaten .none (viable r .none candidates arguments)).map function) ∧
          ∀ c ∈ viable r .none candidates arguments, c.function ∉ tied →
            ∃ d ∈ viable r .none candidates arguments,
              d.function ∈ tied ∧ dominates .none d c := by
  refine ⟨fun c _ => not_dominates_self .none c, ?_, fun best lone => ?_, fun tied h => ?_⟩
  · intro a ha b hb c hc
    simp only [dominates_iff]
    exact .trans_of_free (aligned_of_mem_viable ha) (aligned_of_mem_viable hb)
      (aligned_of_mem_viable hc)
  · rw [resolve, outcomeOf_eq_succeeded_iff]
    exact ⟨best, ofViable_of_lone lone, rfl⟩
  · obtain ⟨among, selection, rfl⟩ := outcomeOf_eq_ambiguous_iff.mp h
    obtain rfl := eq_unbeaten_of_tied selection
    have perm := inCandidateOrder_perm candidates
      ((unbeaten .none (viable r .none candidates arguments)).map function)
    refine ⟨perm, fun distinct => ?_, fun c hc outside => ?_⟩
    · have listed : ((unbeaten .none (viable r .none candidates arguments)).map function).Sublist
          candidates :=
        ((unbeaten_sublist _ _).map _).trans (functions_viable_sublist functions _ _ _)
      rw [inCandidateOrder_of_sublist distinct listed]
      exact ⟨listed, rfl⟩
    · rw [perm.mem_iff] at outside
      obtain ⟨d, unbeaten, rfl | dominated⟩ := exists_unbeaten_above hc
      · exact absurd (List.mem_map_of_mem unbeaten) outside
      · refine ⟨d, (unbeaten_sublist _ _).subset unbeaten, ?_, dominates_iff.mpr dominated⟩
        rw [perm.mem_iff]
        exact List.mem_map_of_mem unbeaten

/-- Three functions of two parameters: the first takes an `int` in both places, and each of the
other two takes a `char` where the other one takes an `int`. -/
def crosswise : Registry :=
  let types : Table TypeHash TypeDecl := { entries := [
    (FundamentalKind.char.hash, .fundamental .char),
    (FundamentalKind.int.hash, .fundamental .int)] }
  let overload (hash : TypeHash) (first second : FundamentalKind) : FunctionDecl :=
    { hash, name := "mix",
      params := [{ dataType := .ofKind first }, { dataType := .ofKind second }] }
  (({ types } : Registry).addFunction (overload ⟨11⟩ .int .int)).addFunction
    (overload ⟨12⟩ .char .int) |>.addFunction (overload ⟨13⟩ .int .char)

theorem crosswise_soundFunctions : crosswise.SoundFunctions :=
  (((Registry.SoundFunctions.ofTypes _).addFunction _).addFunction _).addFunction _

/-- For two `char` arguments the last two tie, and the first is dominated by one of them. -/
theorem free_call_ordered_crosswise :
    crosswise.SoundFunctions ∧
      (resolve crosswise .none [⟨11⟩, ⟨12⟩, ⟨13⟩]
        (.types [.ofKind .char, .ofKind .char])).outcome = .ambiguous [⟨12⟩, ⟨13⟩] ∧
      ∃ c ∈ viable crosswise .none [⟨11⟩, ⟨12⟩, ⟨13⟩] (.types [.ofKind .char, .ofKind .char]),
        c.function = ⟨11⟩ ∧
          ∃ d ∈ viable crosswise .none [⟨11⟩, ⟨12⟩, ⟨13⟩] (.types [.ofKind .char, .ofKind .char]),
            d.function ∈ [⟨12⟩, ⟨13⟩] ∧ dominates .none d c := by
  have ambiguous : (resolve crosswise .none [⟨11⟩, ⟨12⟩, ⟨13⟩]
      (.types [.ofKind .char, .ofKind .char])).outcome = .ambiguous [⟨12⟩, ⟨13⟩] := by
    cbv
  have allViable : (viable crosswise .none [⟨11⟩, ⟨12⟩, ⟨13⟩]
      (.types [.ofKind .char, .ofKind .char])).map function = [⟨11⟩, ⟨12⟩, ⟨13⟩] := by
    cbv
  obtain ⟨c, hc, isFirst⟩ := List.mem_map.mp (allViable ▸ List.mem_cons_self :
    (⟨11⟩ : TypeHash) ∈ (viable crosswise .none [⟨11⟩, ⟨12⟩, ⟨13⟩]
      (.types [.ofKind .char, .ofKind .char])).map function)
  obtain ⟨-, -, -, tie⟩ := free_call_ordered crosswise_soundFunctions [⟨11⟩, ⟨12⟩, ⟨13⟩]
    (.types [.ofKind .char, .ofKind .char])
  obtain ⟨-, -, dominated⟩ := tie _ ambiguous
  exact ⟨crosswise_soundFunctions, ambiguous, c, hc, isFirst,
    dominated c hc (by rw [isFirst]; decide)⟩

end Resolution

end ScriptSemantics
