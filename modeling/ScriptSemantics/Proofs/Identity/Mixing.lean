import Mathlib.Data.Nat.ModEq
import ScriptSemantics.TemplateArgument

/-!
# What Mixing Keeps Apart

Components are folded into an identity by multiplying with the separator and adding the next one.
The separator is a multiple of eight, so each multiplication shifts the three highest bits of what
is there already out of the word. A component that is followed by `n` others counts with its lowest
`64 - 3 * n` bits only, and so does a seed to which `n` components are added.

What is left decides: two lists that differ at one place have the same mix exactly if the two
components agree in the bits that survive. The last component is compared in full. After twenty-two
components nothing is left of the seed, which is where the name of a function is.

The step lemma is `agreeBelow_mul_separator`, for one multiplication, and `mixFrom_eq_iff` follows
along the list.
-/

namespace ScriptSemantics

/-! ## Agreement in the lowest bits -/

/-- Two words have the same lowest `width` bits. -/
def AgreeBelow (width : Nat) (a b : UInt64) : Prop :=
  a.toNat ≡ b.toNat [MOD 2 ^ width]

instance (width : Nat) (a b : UInt64) : Decidable (AgreeBelow width a b) :=
  inferInstanceAs (Decidable (a.toNat % 2 ^ width = b.toNat % 2 ^ width))

section AgreeBelow

variable {width : Nat} {a b : UInt64}

theorem agreeBelow_full : AgreeBelow 64 a b ↔ a = b := by
  rw [← UInt64.toNat_inj]
  constructor
  · intro h
    exact h.eq_of_lt_of_lt a.toNat_lt b.toNat_lt
  · intro h
    rw [AgreeBelow, h]

/-- Reduction of a word does not touch its lowest bits. -/
theorem agreeBelow_mod (fits : width ≤ 64) (m n : Nat) :
    m % 2 ^ 64 ≡ n % 2 ^ 64 [MOD 2 ^ width] ↔ m ≡ n [MOD 2 ^ width] := by
  have divides : 2 ^ width ∣ 2 ^ 64 := Nat.pow_dvd_pow 2 fits
  have reduced (k : Nat) : k % 2 ^ 64 ≡ k [MOD 2 ^ width] :=
    (Nat.mod_modEq k (2 ^ 64)).of_dvd divides
  constructor
  · intro h
    exact ((reduced m).symm.trans h).trans (reduced n)
  · intro h
    exact ((reduced m).trans h).trans (reduced n).symm

theorem agreeBelow_add_left (fits : width ≤ 64) (c : UInt64) :
    AgreeBelow width (c + a) (c + b) ↔ AgreeBelow width a b := by
  rw [AgreeBelow, UInt64.toNat_add, UInt64.toNat_add, agreeBelow_mod fits]
  exact ⟨Nat.ModEq.add_left_cancel' _, Nat.ModEq.add_left _⟩

theorem agreeBelow_add_right (fits : width ≤ 64) (c : UInt64) :
    AgreeBelow width (a + c) (b + c) ↔ AgreeBelow width a b := by
  rw [UInt64.add_comm a, UInt64.add_comm b, agreeBelow_add_left fits]

/-- A mask is taken off by applying it once more. -/
theorem agreeBelow_xor (c : UInt64) :
    AgreeBelow width (c ^^^ a) (c ^^^ b) ↔ AgreeBelow width a b := by
  have masked {x y : UInt64} (h : AgreeBelow width x y) : AgreeBelow width (c ^^^ x) (c ^^^ y) := by
    unfold AgreeBelow Nat.ModEq at h ⊢
    rw [UInt64.toNat_xor, UInt64.toNat_xor, Nat.xor_mod_two_pow, Nat.xor_mod_two_pow, h]
  constructor
  · intro h
    simpa [← UInt64.xor_assoc] using masked h
  · exact masked

/-- The separator is eight times an odd number. -/
theorem toNat_separator : TypeHash.separator.toNat = 8 * 0x1e54e9bc8a5cd687 := by
  decide

/-- One multiplication by the separator costs three bits. -/
theorem agreeBelow_mul_separator (fits : width ≤ 64) :
    AgreeBelow width (a * TypeHash.separator) (b * TypeHash.separator) ↔
      AgreeBelow (width - 3) a b := by
  rw [AgreeBelow, UInt64.toNat_mul, UInt64.toNat_mul, agreeBelow_mod fits, toNat_separator,
    ← Nat.mul_assoc, ← Nat.mul_assoc]
  -- The odd factor is invertible modulo a power of two.
  have odd : (2 ^ width).gcd 0x1e54e9bc8a5cd687 = 1 :=
    Nat.Coprime.pow_left width (by decide)
  have cancelled : a.toNat * 8 * 0x1e54e9bc8a5cd687 ≡ b.toNat * 8 * 0x1e54e9bc8a5cd687
      [MOD 2 ^ width] ↔ a.toNat * 8 ≡ b.toNat * 8 [MOD 2 ^ width] :=
    ⟨Nat.ModEq.cancel_right_of_coprime odd, Nat.ModEq.mul_right _⟩
  rw [cancelled, AgreeBelow]
  by_cases short : width ≤ 3
  · -- All bits that are compared are shifted out.
    have zero (n : Nat) : n * 8 ≡ 0 [MOD 2 ^ width] :=
      (Nat.modEq_zero_iff_dvd.mpr (Dvd.dvd.mul_left (Nat.pow_dvd_pow 2 short) n))
    rw [Nat.sub_eq_zero_of_le short, pow_zero]
    exact ⟨fun _ => Nat.modEq_one, fun _ => (zero _).trans (zero _).symm⟩
  · have split : 2 ^ width = 2 ^ (width - 3) * 8 := by
      rw [show (8 : Nat) = 2 ^ 3 from rfl, ← pow_add, Nat.sub_add_cancel (by omega)]
    rw [split]
    exact Nat.ModEq.mul_right_cancel_iff' (by decide)

end AgreeBelow

/-! ## Mixing -/

namespace TypeHash

/-- How many bits of a component survive the mixing of `after` further ones. -/
def survivingBits (after : Nat) : Nat := 64 - 3 * after

/-- The accumulators of two runs over the same components count with the bits that survive these. -/
theorem mixFrom_eq_iff (position acc acc' : UInt64) (items : List UInt64) :
    mixFrom position acc items = mixFrom position acc' items ↔
      AgreeBelow (survivingBits items.length) acc acc' := by
  induction items generalizing position acc acc' with
  | nil => exact agreeBelow_full.symm
  | cons item items ih =>
    have fits : survivingBits items.length ≤ 64 := Nat.sub_le _ _
    have lost : survivingBits items.length - 3 = survivingBits (items.length + 1) := by
      unfold survivingBits
      omega
    rw [mixFrom, mixFrom, ih, agreeBelow_add_right fits, agreeBelow_mul_separator fits, lost,
      List.length_cons]

/-- What is mixed in front only counts by the place and the accumulator that it leaves. -/
theorem mixFrom_append (position acc : UInt64) (front : List UInt64) :
    ∃ position' acc', ∀ back,
      mixFrom position acc (front ++ back) = mixFrom position' acc' back := by
  induction front generalizing position acc with
  | nil => exact ⟨position, acc, fun _ => rfl⟩
  | cons item front ih => exact ih _ _

/-- Two lists that differ at one place. -/
theorem mix_eq_iff (seed : UInt64) (front : List TypeHash) (x y : TypeHash) (back : List TypeHash) :
    mix seed (front ++ x :: back) = mix seed (front ++ y :: back) ↔
      AgreeBelow (survivingBits back.length) x.bits y.bits := by
  -- Up to that place the runs are one and the same.
  obtain ⟨position, acc, same⟩ := mixFrom_append 1 seed (front.map bits)
  rw [mix, mix, TypeHash.mk.injEq]
  simp only [List.map_append, List.map_cons, same]
  have fits : survivingBits (back.map bits).length ≤ 64 := Nat.sub_le _ _
  rw [mixFrom, mixFrom, mixFrom_eq_iff, agreeBelow_add_left fits, agreeBelow_xor, List.length_map]

/-- Two seeds to which the same components are added. -/
theorem mix_seed_eq_iff (seed seed' : UInt64) (items : List TypeHash) :
    mix seed items = mix seed' items ↔ AgreeBelow (survivingBits items.length) seed seed' := by
  rw [mix, mix, TypeHash.mk.injEq, mixFrom_eq_iff, List.length_map]

/-! ## Identities of entities -/

/-- Two argument lists of a template, and two names of a function with twenty-two parameters, that
have one identity. -/
theorem identities_shared :
    (∀ template, ofTemplateInstance template [.integer 0, .integer 5] =
        ofTemplateInstance template [.integer 72057594037927936, .integer 5]) ∧
      ofFunction "f" (List.replicate 22 (ofName "int")) =
        ofFunction "g" (List.replicate 22 (ofName "int")) := by
  constructor
  · intro template
    unfold ofTemplateInstance ofInstance
    exact (mix_eq_iff _ [] _ _ _).mpr (by decide)
  · unfold ofFunction
    rw [mix_seed_eq_iff, List.length_replicate]
    exact Nat.modEq_one

/-- **What identities keep apart**: two component lists that differ at one place have the same mix
exactly if the two components agree in the bits that survive the components behind them, and two
seeds have the same mix with one list exactly if they agree in the bits that survive all of it. So
it is for overloads that differ in one parameter, instances that differ in one argument, and
functions of different names. -/
theorem identity_shared_iff (seed seed' : UInt64) (front back : List TypeHash) (x y : TypeHash) :
    (mix seed (front ++ x :: back) = mix seed (front ++ y :: back) ↔
        AgreeBelow (survivingBits back.length) x.bits y.bits) ∧
      (mix seed back = mix seed' back ↔ AgreeBelow (survivingBits back.length) seed seed') ∧
      (∀ name, ofFunction name (front ++ x :: back) = ofFunction name (front ++ y :: back) ↔
        AgreeBelow (survivingBits back.length) x.bits y.bits) ∧
      (∀ owner name isConst,
        ofMethod owner name (front ++ x :: back) isConst =
            ofMethod owner name (front ++ y :: back) isConst ↔
          AgreeBelow (survivingBits back.length) x.bits y.bits) ∧
      (∀ owner,
        ofConstructor owner (front ++ x :: back) = ofConstructor owner (front ++ y :: back) ↔
          AgreeBelow (survivingBits back.length) x.bits y.bits) ∧
      (∀ template front a b back,
        ofTemplateInstance template (front ++ a :: back) =
            ofTemplateInstance template (front ++ b :: back) ↔
          AgreeBelow (survivingBits back.length) a.identity.bits b.identity.bits) ∧
      ∀ name name', ofFunction name back = ofFunction name' back ↔
        AgreeBelow (survivingBits back.length) (Digest.ofString name) (Digest.ofString name') := by
  have onePlace := fun seed => mix_eq_iff seed front x y back
  refine ⟨onePlace seed, mix_seed_eq_iff seed seed' back, fun _ => onePlace _,
    fun _ _ _ => onePlace _, fun _ => onePlace _, ?_, ?_⟩
  · intro template front a b back
    unfold ofTemplateInstance ofInstance
    rw [List.map_append, List.map_append, List.map_cons, List.map_cons, mix_eq_iff, List.length_map]
  · intro name name'
    rw [ofFunction, ofFunction, mix_seed_eq_iff, agreeBelow_xor]

end TypeHash

end ScriptSemantics
