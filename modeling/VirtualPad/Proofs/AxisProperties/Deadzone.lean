import VirtualPad.Proofs.AxisProperties.Order

/-!
# Values within the deadzone

A value between the deadzone cutoffs is meant to read as rest. On the positive side it does, however
low the saturation is set. On the negative side saturation is looked at first, so a saturation below
the deadzone takes the part of the deadzone beyond it to the end of the range
(`apply_within_deadzone`).
-/

namespace VirtualPad.AxisProperties

/-- A raw value lies between the deadzone cutoffs, both included. -/
def Dead (p : AxisProperties) (value : Int) : Prop :=
  cutoff axisMin p.deadzone ≤ value ∧ value ≤ cutoff axisMax p.deadzone

instance (p : AxisProperties) (value : Int) : Decidable (p.Dead value) :=
  inferInstanceAs (Decidable (_ ∧ _))

theorem cutoff_axisMin_anti {a b : UInt32} (hab : a ≤ b) :
    cutoff axisMin b ≤ cutoff axisMin a := by
  have hle := UInt32.le_iff_toNat_le.1 hab
  rw [cutoff_axisMin_eq, cutoff_axisMin_eq]
  omega

theorem dead_cutoff (p : AxisProperties) : p.Dead (cutoff axisMin p.deadzone) :=
  ⟨Int.le_refl _, Int.le_trans (cutoff_axisMin _).2 (cutoff_axisMax _).1⟩

theorem stretch_dead {p : AxisProperties} {value : Int} (h : p.Dead value) :
    p.stretch value = if value < cutoff axisMin p.saturation then .low else .middle := by
  obtain ⟨hlow, hhigh⟩ := h
  rw [stretch, if_neg (Int.not_lt.2 hlow), if_pos hhigh]

theorem apply_dead {p : AxisProperties} (he : p.enabled = true) {value : Int} (h : p.Dead value) :
    p.apply value =
      if value < cutoff axisMin p.saturation then p.rangeMin.toInt else p.neutral := by
  rw [apply_eq he, stretch_dead h]
  by_cases hsat : value < cutoff axisMin p.saturation
  · rw [if_pos hsat, if_pos hsat]
    rfl
  · rw [if_neg hsat, if_neg hsat]
    rfl

theorem apply_dead_of_le {p : AxisProperties} (he : p.enabled = true) {value : Int}
    (h : p.Dead value) (hle : cutoff axisMin p.saturation ≤ value) : p.apply value = p.neutral := by
  rw [apply_dead he h, if_neg (Int.not_lt.2 hle)]

/-- The whole deadzone rests just when its negative cutoff is not beyond that of saturation, unless
the end of the range is the middle as well. -/
theorem rests_iff {p : AxisProperties} (he : p.enabled = true) :
    (∀ value, p.Dead value → p.apply value = p.neutral) ↔
      cutoff axisMin p.saturation ≤ cutoff axisMin p.deadzone ∨ p.rangeMin.toInt = p.neutral := by
  constructor
  · intro hrest
    -- The cutoff itself is the value within the deadzone that is farthest from the centre.
    have hend := hrest _ p.dead_cutoff
    rw [apply_dead he p.dead_cutoff] at hend
    split at hend
    · exact .inr hend
    · exact .inl (by omega)
  · rintro (hle | hend) value h
    · exact apply_dead_of_le he h (Int.le_trans hle h.1)
    · rw [apply_dead he h, hend, ite_self]

/-- What is presented of the values within the deadzone. From the centre up, and everywhere unless
saturation is below the deadzone, it is the middle of the range. Below the centre saturation goes
first, so values in the deadzone that are beyond the cutoff of saturation go to the end. -/
theorem apply_within_deadzone (p : AxisProperties) (he : p.enabled = true) :
    (∀ value, p.Dead value →
      p.apply value =
        if value < cutoff axisMin p.saturation then p.rangeMin.toInt else p.neutral) ∧
    (∀ value, p.Dead value → 0 ≤ value → p.apply value = p.neutral) ∧
    (p.deadzone ≤ p.saturation → ∀ value, p.Dead value → p.apply value = p.neutral) ∧
    ((∀ value, p.Dead value → p.apply value = p.neutral) ↔
      cutoff axisMin p.saturation ≤ cutoff axisMin p.deadzone ∨ p.rangeMin.toInt = p.neutral) := by
  refine ⟨fun value h => apply_dead he h, ?_, ?_, rests_iff he⟩
  · intro value h hnonneg
    exact apply_dead_of_le he h (Int.le_trans (cutoff_axisMin _).2 hnonneg)
  · intro hle
    exact (rests_iff he).2 (.inl (cutoff_axisMin_anti hle))

/-- Half the travel is dead and a fifth saturates: the two sides part at the same distance. -/
theorem apply_within_deadzone_crossed :
    let p : AxisProperties := { deadzone := 5000, saturation := 2000 }
    p.enabled = true ∧ p.Dead (-16384) ∧ p.Dead (-6554) ∧ p.Dead (-6553) ∧
    p.apply (-16384) = -32768 ∧ p.apply (-6554) = -32768 ∧ p.apply (-6553) = 0 := by
  intro p
  have hdead : p.Dead (-16384) ∧ p.Dead (-6554) ∧ p.Dead (-6553) := by decide
  obtain ⟨hall, -, -, -⟩ := apply_within_deadzone p rfl
  obtain ⟨hfar, hbeyond, hwithin⟩ := hdead
  exact ⟨rfl, hfar, hbeyond, hwithin, hall _ hfar, hall _ hbeyond, hall _ hwithin⟩

/-- The same distance from the centre, inside the deadzone on either side: one value rests and the
other goes to the end. -/
theorem saturation_before_deadzone :
    let p : AxisProperties := { deadzone := 8000, saturation := 2000 }
    p.enabled = true ∧ p.deadzone ≤ axisPropertyMax ∧ p.saturation ≤ axisPropertyMax ∧
    p.rangeMin < p.rangeMax ∧ p.Dead (-20000) ∧ p.Dead 20000 ∧
    p.apply 20000 = p.neutral ∧ p.apply (-20000) ≠ p.neutral := by
  decide

end VirtualPad.AxisProperties
