/-!
# Rounding quotients

A quotient of integers rounded to the nearest integer; a half goes away from zero. `roundDiv_bounds`
says that the result is within a half of the quotient. That makes rounding keep the order
(`roundDiv_mono`) and quotients without a remainder (`roundDiv_mul_self`).
-/

namespace VirtualPad

/-- The nearest integer to `num / den`, halves away from zero. -/
def roundDiv (num den : Int) : Int :=
  if 0 ≤ num then (2 * num + den) / (2 * den) else -((2 * -num + den) / (2 * den))

theorem roundDiv_bounds (num : Int) {den : Int} (h : 0 < den) :
    2 * num - den ≤ 2 * den * roundDiv num den ∧ 2 * den * roundDiv num den ≤ 2 * num + den := by
  have h2 : (0 : Int) < 2 * den := by omega
  unfold roundDiv
  split
  · have h3 := Int.mul_ediv_add_emod (2 * num + den) (2 * den)
    have h4 := Int.emod_nonneg (2 * num + den) (Int.ne_of_gt h2)
    have h5 := Int.emod_lt_of_pos (2 * num + den) h2
    omega
  · have h3 := Int.mul_ediv_add_emod (2 * -num + den) (2 * den)
    have h4 := Int.emod_nonneg (2 * -num + den) (Int.ne_of_gt h2)
    have h5 := Int.emod_lt_of_pos (2 * -num + den) h2
    rw [Int.mul_neg]
    omega

theorem roundDiv_mono {a b den : Int} (hden : 0 < den) (hab : a ≤ b) :
    roundDiv a den ≤ roundDiv b den := by
  by_cases heq : a = b
  · subst heq
    exact Int.le_refl _
  · have ha := (roundDiv_bounds a hden).2
    have hb := (roundDiv_bounds b hden).1
    apply Int.not_lt.1
    intro hlt
    have hstep : 2 * den * (roundDiv b den + 1) ≤ 2 * den * roundDiv a den :=
      Int.mul_le_mul_of_nonneg_left hlt (by omega)
    rw [Int.mul_add, Int.mul_one] at hstep
    omega

theorem roundDiv_mul_self (k : Int) {den : Int} (hden : 0 < den) : roundDiv (k * den) den = k := by
  obtain ⟨hlow, hhigh⟩ := roundDiv_bounds (k * den) hden
  have hk : 2 * (k * den) = 2 * den * k := by rw [Int.mul_comm k, Int.mul_assoc]
  rw [hk] at hlow hhigh
  have hle : roundDiv (k * den) den < k + 1 := by
    apply Int.lt_of_mul_lt_mul_left (a := 2 * den) _ (by omega)
    rw [Int.mul_add, Int.mul_one]
    omega
  have hge : k - 1 < roundDiv (k * den) den := by
    apply Int.lt_of_mul_lt_mul_left (a := 2 * den) _ (by omega)
    rw [Int.mul_sub, Int.mul_one]
    omega
  omega

end VirtualPad
