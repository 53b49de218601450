import Mathlib.Logic.Relation
import ScriptSemantics.Registry.Hierarchy

/-!
# Inheritance

A class extends its base, and inherits from every class that it reaches by such steps, whatever the
base chains compute. A chain visits inherited classes only (`reaches_of_mem_baseChain`), so a depth
that is found between two classes means that the one inherits from the other.
-/

namespace ScriptSemantics.Registry

variable {r : Registry}

/-- One inheritance step, from a registered class to its base. -/
def Extends (r : Registry) (derived base : TypeHash) : Prop :=
  ∃ c, r.class? derived = some c ∧ c.base = some base

/-- A value of the first type is a value of the second: the types are equal up to const and
reference, or they are classes and the first inherits from the second. -/
def IsA (r : Registry) (t u : DataType) : Prop :=
  t.base = u.base ∨
    (r.isClass t ∧ r.isClass u ∧ Relation.TransGen r.Extends t.typeHash u.typeHash)

theorem reaches_of_mem_chainFrom {limit : Nat} {visited : List TypeHash} {hash h : TypeHash}
    (member : h ∈ r.chainFrom limit visited hash) : Relation.ReflTransGen r.Extends hash h := by
  induction limit generalizing visited hash with
  | zero => simp [chainFrom] at member
  | succ limit ih =>
    rw [chainFrom] at member
    split at member
    · simp at member
    split at member
    · simp at member
    · rename_i c found
      rcases List.mem_cons.mp member with rfl | above
      · exact .refl
      · -- The rest of the chain is that of the base.
        split at above
        · simp at above
        · rename_i base isBase
          exact .head ⟨c, found, isBase⟩ (ih above)

/-- The classes of a base chain are inherited by the one that it starts with. -/
theorem reaches_of_mem_baseChain {hash h : TypeHash} (member : h ∈ r.baseChain hash) :
    Relation.ReflTransGen r.Extends hash h :=
  reaches_of_mem_chainFrom member

theorem mem_baseChain_of_inheritanceDepth? {derived base : TypeHash} {depth : Nat}
    (found : r.inheritanceDepth? derived base = some depth) : base ∈ r.baseChain derived := by
  obtain ⟨bound, here, -⟩ := List.findIdx?_eq_some_iff_getElem.mp found
  rw [← eq_of_beq here]
  exact List.getElem_mem bound

/-- A depth between classes of different types says that the one inherits from the other. -/
theorem isA_of_inheritanceDepth? {t u : DataType} {depth : Nat} (derived : r.isClass t)
    (base : r.isClass u) (found : r.inheritanceDepth? t.typeHash u.typeHash = some depth) :
    r.IsA t u := by
  have reached := reaches_of_mem_baseChain (mem_baseChain_of_inheritanceDepth? found)
  rcases Relation.reflTransGen_iff_eq_or_transGen.mp reached with same | inherits
  · -- Classes are no arrays, so that the identity is all there is to their types.
    left
    simp only [isClass, Bool.and_eq_true, Bool.not_eq_true'] at derived base
    rw [DataType.base, DataType.base, same, derived.1, base.1]
  · exact .inr ⟨derived, base, inherits⟩

end ScriptSemantics.Registry
