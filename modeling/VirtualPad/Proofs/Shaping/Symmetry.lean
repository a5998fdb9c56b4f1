import VirtualPad.Proofs.Shaping.Order

/-!
# Both directions of a stick

A stick that is pushed as far to one side as it was to the other is meant to be shaped alike. It is,
up to the one step by which the negative half of the travel is longer (`shapeStick_opposite_iff`).
But both cutoffs are portions of the positive half. When the deadzone takes all of it, the end of the
negative half lies one step beyond, and since saturation cannot be farther out, that one reading goes
to the end of the range while every other one is at rest.
-/

namespace VirtualPad

section

variable {m scale d s : ℕ}

theorem portion_eq_iff (hscale : 0 < scale) : portion scale d = scale ↔ 100 ≤ d := by
  constructor
  · intro h
    by_contra hd
    have hlt : scale * d < scale * 100 := Nat.mul_lt_mul_of_pos_left (not_le.mp hd) hscale
    rw [portion, Nat.min_eq_left (by omega)] at h
    omega
  · intro hd
    rw [portion, Nat.min_eq_right hd, Nat.mul_div_cancel scale (by decide)]

theorem le_stretch (h : portion scale d < m) (hs : portion scale s ≤ m) :
    scale ≤ stretch m scale d s := by
  rcases hs.lt_or_eq with hlt | rfl
  · exact (lt_stretch h hlt).le
  · have hexact : (stretch (portion scale s) scale d s : ℤ) = scale := by
      rw [stretch_of_lt h h, Int.mul_comm, roundDiv_mul_self _ (by omega)]
    omega

end

/-! ## Opposite readings -/

/-- Two stick values are both at rest, or they lie on different sides and their distances from rest
differ by no more than one step. -/
def Opposite (x y : Int16) : Prop :=
  (x = 0 ∧ y = 0 ∨ x < 0 ∧ 0 < y ∨ 0 < x ∧ y < 0) ∧
    x.toInt.natAbs ≤ y.toInt.natAbs + 1 ∧ y.toInt.natAbs ≤ x.toInt.natAbs + 1

instance (x y : Int16) : Decidable (Opposite x y) := inferInstanceAs (Decidable (_ ∧ _))

theorem opposite_iff {x y : Int16} :
    Opposite x y ↔ (x.toInt = 0 ∧ y.toInt = 0 ∨ x.toInt < 0 ∧ 0 < y.toInt ∨
      0 < x.toInt ∧ y.toInt < 0) ∧
      x.toInt.natAbs ≤ y.toInt.natAbs + 1 ∧ y.toInt.natAbs ≤ x.toInt.natAbs + 1 := by
  rw [Opposite, ← Int16.toInt_inj, ← Int16.toInt_inj, Int16.lt_iff_toInt_lt, Int16.lt_iff_toInt_lt,
    Int16.lt_iff_toInt_lt, Int16.lt_iff_toInt_lt, Int16.toInt_zero]

theorem toInt_negateStick {v : Int16} (h : v ≠ Int16.minValue) :
    (negateStick v).toInt = -v.toInt := by
  have hlow : -32768 ≤ v.toInt := v.le_toInt
  have hhigh : v.toInt < 32768 := v.toInt_lt
  have hne : v.toInt ≠ -32768 := fun he => h (Int16.toInt_inj.mp he)
  rw [negateStick, if_neg h, Int16.toInt_neg]
  exact Int.bmod_eq_of_le (by omega) (by omega)

section

variable {v : Int16} (d s : UInt32)

/-- Where a value can be negated, the two directions share one stretched distance. -/
theorem opposite_negateStick (h : v ≠ Int16.minValue) :
    Opposite (shapeStick v d s) (shapeStick (negateStick v) d s) := by
  rw [opposite_iff, toInt_shapeStick_eq, toInt_shapeStick_eq, toInt_negateStick h, Int.natAbs_neg]
  by_cases hzero : v.toInt = 0
  · have hrest : stretch v.toInt.natAbs 32767 d.toNat s.toNat = 0 :=
      stretch_of_le (by rw [hzero]; exact Nat.zero_le _)
    rw [hrest]
    omega
  · split_ifs <;> omega

theorem shapeStick_minValue : shapeStick Int16.minValue d s = Int16.minValue := by
  have hbeyond (p : ℕ) : portion 32767 p < 32768 := Nat.lt_succ_of_le (portion_le 32767 p)
  have hfar : 32767 < stretch 32768 32767 d.toNat s.toNat := lt_stretch (hbeyond _) (hbeyond _)
  rw [← Int16.toInt_inj, toInt_shapeStick_eq, Int16.toInt_minValue, if_pos (by decide),
    show (-2 ^ 15 : ℤ).natAbs = 32768 from rfl]
  omega

theorem shapeStick_maxValue :
    shapeStick Int16.maxValue d s = if 100 ≤ d then 0 else Int16.maxValue := by
  rw [← Int16.toInt_inj, toInt_shapeStick_eq, Int16.toInt_maxValue, if_neg (by decide),
    show (2 ^ 15 - 1 : ℤ).natAbs = 32767 from rfl]
  have hall : portion 32767 d.toNat = 32767 ↔ 100 ≤ d.toNat := portion_eq_iff (by decide)
  have hle := portion_le 32767 d.toNat
  split_ifs with hd
  · have hdead : portion 32767 d.toNat = 32767 := hall.2 (UInt32.le_iff_toNat_le.mp hd)
    rw [stretch_of_le hdead.ge]
    rfl
  · have halive : portion 32767 d.toNat ≠ 32767 := fun h => hd (UInt32.le_iff_toNat_le.mpr (hall.1 h))
    have hend : 32767 ≤ stretch 32767 32767 d.toNat s.toNat :=
      le_stretch (by omega) (portion_le 32767 s.toNat)
    rw [Int16.toInt_maxValue]
    omega

end

/-- When a stick is shaped alike in both directions. Under any percentages a value and its negation
come out opposite to each other, with one exception: the most negative value, once the deadzone is
the whole travel. It goes to the end of the range whatever is set, and the greatest value, which is
its negation, rests just in that case. -/
theorem shapeStick_opposite_iff (v : Int16) (deadzone saturation : UInt32) :
    (Opposite (shapeStick v deadzone saturation) (shapeStick (negateStick v) deadzone saturation) ↔
      v ≠ Int16.minValue ∨ deadzone < 100) ∧
    ((shapeStick Int16.minValue deadzone saturation = 0 ↔
      shapeStick Int16.maxValue deadzone saturation = 0) ↔ deadzone < 100) ∧
    shapeStick Int16.minValue deadzone saturation = Int16.minValue ∧
    shapeStick Int16.maxValue deadzone saturation =
      if 100 ≤ deadzone then 0 else Int16.maxValue := by
  have hmin := shapeStick_minValue deadzone saturation
  have hmax := shapeStick_maxValue deadzone saturation
  refine ⟨?_, ?_, hmin, hmax⟩
  · by_cases hv : v = Int16.minValue
    · subst hv
      have hnegate : negateStick Int16.minValue = Int16.maxValue := by decide
      rw [hnegate, hmin, hmax]
      by_cases hd : 100 ≤ deadzone
      · rw [if_pos hd]
        exact iff_of_false (by decide) (by simp [hd])
      · rw [if_neg hd]
        exact iff_of_true (by decide) (.inr (UInt32.not_le.mp hd))
    · exact iff_of_true (opposite_negateStick _ _ hv) (.inl hv)
  · rw [hmin, hmax]
    by_cases hd : 100 ≤ deadzone
    · rw [if_pos hd]
      exact iff_of_false (by decide) (UInt32.not_lt.mpr hd)
    · rw [if_neg hd]
      exact iff_of_true (by decide) (UInt32.not_le.mp hd)

/-- With all of the travel dead, one end of it rests and the other goes to the end of the range. -/
theorem dead_travel_one_sided :
    shapeStick 32767 100 100 = 0 ∧ shapeStick (-32768) 100 100 = -32768 ∧
    ¬Opposite (shapeStick (-32768) 100 100) (shapeStick (negateStick (-32768)) 100 100) := by
  decide

end VirtualPad
