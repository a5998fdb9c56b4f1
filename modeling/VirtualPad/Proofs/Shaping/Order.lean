import VirtualPad.Proofs.Number.Exact
import VirtualPad.Shaping

/-!
# Shaped readings are ordered

Whatever percentages are set, shaping keeps the order of the readings, leaves rest where it is and
turns no reading around, and a greater deadzone or saturation never makes more of a reading
(`shape_order`). The settings that change nothing are passed by in the program; there the general
formula, written down here in exact arithmetic, comes to the same (`toInt_shapeStick`,
`toNat_shapeTrigger`).

Between deadzone and saturation a stretched magnitude falls when either of them rises. Beyond the
saturation it rises with the deadzone instead, but there it exceeds the whole scale (`lt_stretch`),
and is cut back to the end of the range in any case. So both are compared after the cut
(`min_stretch_anti`).
-/

namespace VirtualPad

/-! ## Stretched magnitudes -/

/-- A percentage of the travel, without the fraction; everything beyond 100 percent is all of it. -/
def portion (scale percent : ℕ) : ℕ := scale * min percent 100 / 100

section

variable {m n scale d d' s s' cap : ℕ}

theorem portion_le (scale d : ℕ) : portion scale d ≤ scale :=
  Nat.div_le_of_le_mul (by
    rw [Nat.mul_comm 100]
    exact Nat.mul_le_mul_left scale (Nat.min_le_right d 100))

theorem portion_mono (h : d ≤ d') : portion scale d ≤ portion scale d' :=
  Nat.div_le_div_right (Nat.mul_le_mul_left scale (min_le_min_right 100 h))

theorem stretch_of_le (h : m ≤ portion scale d) : stretch m scale d s = 0 := if_pos h

theorem stretch_of_crossed (h : portion scale d < m) (hs : portion scale s ≤ portion scale d) :
    stretch m scale d s = scale + 1 := by
  rw [stretch]
  exact (if_neg h.not_ge).trans (if_pos hs)

theorem stretch_of_lt (h : portion scale d < m) (hs : portion scale d < portion scale s) :
    (stretch m scale d s : ℤ) =
      roundDiv ((m - portion scale d) * scale) (portion scale s - portion scale d) := by
  have heq : stretch m scale d s = (roundDiv ((m - portion scale d) * scale : ℕ)
      ((portion scale s - portion scale d : ℕ) : ℤ)).toNat := by
    rw [stretch]
    exact (if_neg h.not_ge).trans (if_neg hs.not_ge)
  have hwidth : (0 : ℤ) < (portion scale s - portion scale d : ℕ) := by omega
  have hnonneg : 0 ≤ roundDiv ((m - portion scale d) * scale : ℕ)
      ((portion scale s - portion scale d : ℕ) : ℤ) := by
    have hmono := roundDiv_mono hwidth (Int.natCast_nonneg ((m - portion scale d) * scale))
    rwa [← Int.zero_mul, roundDiv_mul_self 0 hwidth] at hmono
  rw [heq, Int.toNat_of_nonneg hnonneg, Nat.cast_mul, Nat.cast_sub h.le, Nat.cast_sub hs.le]

theorem stretch_mono (scale d s : ℕ) (h : m ≤ n) : stretch m scale d s ≤ stretch n scale d s := by
  by_cases hm : m ≤ portion scale d
  · rw [stretch_of_le hm]
    exact Nat.zero_le _
  · have hlt : portion scale d < m := not_le.mp hm
    by_cases hs : portion scale s ≤ portion scale d
    · rw [stretch_of_crossed hlt hs, stretch_of_crossed (hlt.trans_le h) hs]
    · have hs' : portion scale d < portion scale s := not_le.mp hs
      rw [← Int.ofNat_le, stretch_of_lt hlt hs', stretch_of_lt (hlt.trans_le h) hs']
      exact roundDiv_mono (by omega)
        (Int.mul_le_mul_of_nonneg_right (by omega) (Int.natCast_nonneg scale))

theorem lt_stretch (h : portion scale d < m) (hs : portion scale s < m) :
    scale < stretch m scale d s := by
  by_cases hcrossed : portion scale s ≤ portion scale d
  · rw [stretch_of_crossed h hcrossed]
    exact Nat.lt_succ_self scale
  · have hlt : portion scale d < portion scale s := not_le.mp hcrossed
    have hwidth : ((portion scale s : ℤ) - portion scale d) ≤ scale := by
      have := portion_le scale s
      omega
    have hstep : ((scale + 1 : ℕ) : ℤ) * (portion scale s - portion scale d) ≤
        (m - portion scale d) * scale := by
      -- One step beyond the end gains the scale, which is no less than the width.
      have hgain : ((portion scale s : ℤ) - portion scale d + 1) * scale ≤
          (m - portion scale d) * scale :=
        Int.mul_le_mul_of_nonneg_right (by omega) (Int.natCast_nonneg scale)
      push_cast
      linarith
    rw [← Nat.succ_le_iff, ← Int.ofNat_le, stretch_of_lt h hlt]
    calc ((scale + 1 : ℕ) : ℤ)
        = roundDiv (((scale + 1 : ℕ) : ℤ) * (portion scale s - portion scale d))
            (portion scale s - portion scale d) := (roundDiv_mul_self _ (by omega)).symm
      _ ≤ _ := roundDiv_mono (by omega) hstep

theorem stretch_anti (hm : m ≤ portion scale s) (hd : d ≤ d') (hs : s ≤ s') :
    stretch m scale d' s' ≤ stretch m scale d s := by
  have hlow : portion scale d ≤ portion scale d' := portion_mono hd
  have hhigh : portion scale s ≤ portion scale s' := portion_mono hs
  by_cases hle : m ≤ portion scale d'
  · rw [stretch_of_le hle]
    exact Nat.zero_le _
  · have hlt : portion scale d' < m := not_le.mp hle
    rw [← Int.ofNat_le, stretch_of_lt hlt (by omega), stretch_of_lt (by omega) (by omega)]
    refine roundDiv_le_roundDiv (by omega) (by omega) ?_
    have hcross : ((m : ℤ) - portion scale d') * (portion scale s - portion scale d) ≤
        (m - portion scale d) * (portion scale s' - portion scale d') := by
      have hgap : (0 : ℤ) ≤ (portion scale s - m) * (portion scale d' - portion scale d) :=
        Int.mul_nonneg (by omega) (by omega)
      have hwider : ((m : ℤ) - portion scale d) * (portion scale s - portion scale d') ≤
          (m - portion scale d) * (portion scale s' - portion scale d') :=
        Int.mul_le_mul_of_nonneg_left (by omega) (by omega)
      linarith
    calc ((m : ℤ) - portion scale d') * scale * (portion scale s - portion scale d)
        = (m - portion scale d') * (portion scale s - portion scale d) * scale :=
          Int.mul_right_comm _ _ _
      _ ≤ (m - portion scale d) * (portion scale s' - portion scale d') * scale :=
          Int.mul_le_mul_of_nonneg_right hcross (Int.natCast_nonneg scale)
      _ = (m - portion scale d) * scale * (portion scale s' - portion scale d') :=
          Int.mul_right_comm _ _ _

/-- Cut back to the scale, or to one more, a stretched magnitude always falls with both
percentages. -/
theorem min_stretch_anti (hcap : cap ≤ scale + 1) (hd : d ≤ d') (hs : s ≤ s') :
    min (stretch m scale d' s') cap ≤ min (stretch m scale d s) cap := by
  by_cases hm : m ≤ portion scale s
  · exact min_le_min_right cap (stretch_anti hm hd hs)
  · -- Beyond the saturation it may grow with `d`, but it is cut before that.
    by_cases hlow : m ≤ portion scale d
    · rw [stretch_of_le (hlow.trans (portion_mono hd)), Nat.zero_min]
      exact Nat.zero_le _
    · have hbeyond : scale < stretch m scale d s := lt_stretch (not_le.mp hlow) (not_le.mp hm)
      rw [Nat.min_eq_right (a := stretch m scale d s) (by omega)]
      exact Nat.min_le_right ..

theorem stretch_all (hscale : 0 < scale) (hs : 100 ≤ s) : stretch m scale 0 s = m := by
  have hlow : portion scale 0 = 0 := by rw [portion, Nat.zero_min, Nat.mul_zero, Nat.zero_div]
  have hhigh : portion scale s = scale := by
    rw [portion, Nat.min_eq_right hs, Nat.mul_div_cancel scale (by decide)]
  by_cases hm : m = 0
  · rw [hm, stretch_of_le (Nat.zero_le _)]
  · have h : (stretch m scale 0 s : ℤ) = _ := stretch_of_lt (by omega) (by omega)
    rw [hlow, hhigh, Nat.cast_zero, Int.sub_zero, Int.sub_zero, roundDiv_mul_self _ (by omega)] at h
    exact_mod_cast h

end

/-! ## The general formula -/

/-- How far a magnitude is from the deadzone to the saturation, on the given scale and in exact
arithmetic. Where deadzone and saturation cross, everything beyond them is one step too far. -/
noncomputable def scaledMagnitude (m scale d s : ℕ) : ℤ :=
  if m ≤ portion scale d then 0
  else if portion scale s ≤ portion scale d then scale + 1
  else nearest (((m : ℝ) - portion scale d) * scale / (portion scale s - portion scale d))

/-- The general formula for a stick: the two ends of the travel are cut off apart. -/
noncomputable def scaledStick (value : ℤ) (deadzone saturation : UInt32) : ℤ :=
  let m := scaledMagnitude value.natAbs axisMax.toNat deadzone.toNat saturation.toNat
  if value < 0 then max (-m) axisMin else min m axisMax

/-- The general formula for a trigger. -/
noncomputable def scaledTrigger (value : ℕ) (deadzone saturation : UInt32) : ℤ :=
  min (scaledMagnitude value triggerMax.toNat deadzone.toNat saturation.toNat) triggerMax

theorem stretch_eq_scaledMagnitude (m scale d s : ℕ) :
    (stretch m scale d s : ℤ) = scaledMagnitude m scale d s := by
  unfold scaledMagnitude
  split_ifs with hlow hcrossed
  · rw [stretch_of_le hlow, Nat.cast_zero]
  · rw [stretch_of_crossed (not_le.mp hlow) hcrossed]
    rfl
  · have hlt : portion scale d < portion scale s := not_le.mp hcrossed
    rw [stretch_of_lt (not_le.mp hlow) hlt, roundDiv_eq_nearest _ (by omega)]
    push_cast
    rfl

/-! ## Sticks -/

section

variable {v w : Int16} {d d' s s' : UInt32}

/-- The shortcut comes to the same as the general formula. -/
theorem toInt_shapeStick_eq (v : Int16) (d s : UInt32) :
    (shapeStick v d s).toInt =
      if v.toInt < 0 then max (-(stretch v.toInt.natAbs 32767 d.toNat s.toNat : ℤ)) (-32768)
      else min (stretch v.toInt.natAbs 32767 d.toNat s.toNat : ℤ) 32767 := by
  have hlow : -32768 ≤ v.toInt := v.le_toInt
  have hhigh : v.toInt < 32768 := v.toInt_lt
  by_cases hall : d = 0 ∧ 100 ≤ s
  · have hs : 100 ≤ s.toNat := UInt32.le_iff_toNat_le.mp hall.2
    rw [shapeStick, if_pos hall, hall.1, UInt32.toNat_zero, stretch_all (by decide) hs]
    split <;> omega
  · rw [shapeStick, if_neg hall]
    change Int16.toInt (if v.toInt < 0 then
        Int16.ofInt (max (-(stretch v.toInt.natAbs 32767 d.toNat s.toNat : ℤ)) (-32768))
      else Int16.ofInt (min (stretch v.toInt.natAbs 32767 d.toNat s.toNat : ℤ) 32767)) = _
    split
    · exact Int16.toInt_ofInt_of_le (by omega) (by omega)
    · exact Int16.toInt_ofInt_of_le (by omega) (by omega)

theorem toInt_shapeStick (v : Int16) (d s : UInt32) :
    (shapeStick v d s).toInt = scaledStick v.toInt d s := by
  rw [toInt_shapeStick_eq, stretch_eq_scaledMagnitude]
  rfl

theorem shapeStick_mono (h : v ≤ w) : shapeStick v d s ≤ shapeStick w d s := by
  have hle : v.toInt ≤ w.toInt := Int16.le_iff_toInt_le.mp h
  rw [Int16.le_iff_toInt_le, toInt_shapeStick_eq, toInt_shapeStick_eq]
  split_ifs with hv hw
  · have hfarther : w.toInt.natAbs ≤ v.toInt.natAbs := by omega
    have := stretch_mono 32767 d.toNat s.toNat hfarther
    omega
  · omega
  · omega
  · have hfarther : v.toInt.natAbs ≤ w.toInt.natAbs := by omega
    have := stretch_mono 32767 d.toNat s.toNat hfarther
    omega

theorem shapeStick_zero : shapeStick 0 d s = 0 := by
  rw [← Int16.toInt_inj, toInt_shapeStick_eq, if_neg (by decide)]
  rw [show (0 : Int16).toInt.natAbs = 0 from rfl, stretch_of_le (Nat.zero_le _)]
  rfl

theorem natAbs_shapeStick (v : Int16) (d s : UInt32) :
    (shapeStick v d s).toInt.natAbs =
      min (stretch v.toInt.natAbs 32767 d.toNat s.toNat) (if v.toInt < 0 then 32768 else 32767) := by
  rw [toInt_shapeStick_eq]
  split <;> omega

theorem natAbs_shapeStick_anti (hd : d ≤ d') (hs : s ≤ s') :
    (shapeStick v d' s').toInt.natAbs ≤ (shapeStick v d s).toInt.natAbs := by
  rw [natAbs_shapeStick, natAbs_shapeStick]
  refine min_stretch_anti ?_ (UInt32.le_iff_toNat_le.mp hd) (UInt32.le_iff_toNat_le.mp hs)
  split <;> decide

end

/-! ## Triggers -/

section

variable {v w : UInt8} {d d' s s' : UInt32}

theorem toNat_shapeTrigger_eq (v : UInt8) (d s : UInt32) :
    (shapeTrigger v d s).toNat = min (stretch v.toNat 255 d.toNat s.toNat) 255 := by
  by_cases hall : d = 0 ∧ 100 ≤ s
  · have hs : 100 ≤ s.toNat := UInt32.le_iff_toNat_le.mp hall.2
    rw [shapeTrigger, if_pos hall, hall.1, UInt32.toNat_zero, stretch_all (by decide) hs]
    exact (Nat.min_eq_left (Nat.le_of_lt_succ v.toNat_lt)).symm
  · rw [shapeTrigger, if_neg hall]
    exact UInt8.toNat_ofNat_of_lt' (Nat.lt_succ_of_le (Nat.min_le_right ..))

theorem toNat_shapeTrigger (v : UInt8) (d s : UInt32) :
    ((shapeTrigger v d s).toNat : ℤ) = scaledTrigger v.toNat d s := by
  rw [toNat_shapeTrigger_eq, scaledTrigger, ← stretch_eq_scaledMagnitude, Nat.cast_min]
  rfl

theorem shapeTrigger_mono (h : v ≤ w) : shapeTrigger v d s ≤ shapeTrigger w d s := by
  rw [UInt8.le_iff_toNat_le, toNat_shapeTrigger_eq, toNat_shapeTrigger_eq]
  exact min_le_min_right 255 (stretch_mono 255 d.toNat s.toNat (UInt8.le_iff_toNat_le.mp h))

theorem shapeTrigger_anti (hd : d ≤ d') (hs : s ≤ s') :
    shapeTrigger v d' s' ≤ shapeTrigger v d s := by
  rw [UInt8.le_iff_toNat_le, toNat_shapeTrigger_eq, toNat_shapeTrigger_eq]
  exact min_stretch_anti (by decide) (UInt32.le_iff_toNat_le.mp hd) (UInt32.le_iff_toNat_le.mp hs)

end

/-! ## Order -/

/-- What shaping does for any percentages. It keeps the order of the readings, rest and the side of
it on which a reading lies; greater percentages never make more of a reading; and every reading,
also where the shortcut is taken, comes out as the general formula has it. -/
theorem shape_order (deadzone saturation : UInt32) :
    (∀ v w : Int16, v ≤ w →
      shapeStick v deadzone saturation ≤ shapeStick w deadzone saturation) ∧
    shapeStick 0 deadzone saturation = 0 ∧
    (∀ v : Int16, (0 ≤ v → 0 ≤ shapeStick v deadzone saturation) ∧
      (v ≤ 0 → shapeStick v deadzone saturation ≤ 0)) ∧
    (∀ (v : Int16) (deadzone' saturation' : UInt32),
      deadzone ≤ deadzone' → saturation ≤ saturation' →
      (shapeStick v deadzone' saturation').toInt.natAbs ≤
        (shapeStick v deadzone saturation).toInt.natAbs) ∧
    (∀ v : Int16, (shapeStick v deadzone saturation).toInt =
      scaledStick v.toInt deadzone saturation) ∧
    (∀ v w : UInt8, v ≤ w →
      shapeTrigger v deadzone saturation ≤ shapeTrigger w deadzone saturation) ∧
    (∀ (v : UInt8) (deadzone' saturation' : UInt32),
      deadzone ≤ deadzone' → saturation ≤ saturation' →
      shapeTrigger v deadzone' saturation' ≤ shapeTrigger v deadzone saturation) ∧
    ∀ v : UInt8, ((shapeTrigger v deadzone saturation).toNat : ℤ) =
      scaledTrigger v.toNat deadzone saturation := by
  have hzero : shapeStick 0 deadzone saturation = 0 := shapeStick_zero
  refine ⟨fun v w => shapeStick_mono, hzero, fun v => ⟨fun h => ?_, fun h => ?_⟩,
    fun v _ _ => natAbs_shapeStick_anti, fun v => toInt_shapeStick v _ _,
    fun v w => shapeTrigger_mono, fun v _ _ => shapeTrigger_anti,
    fun v => toNat_shapeTrigger v _ _⟩
  · rw [← hzero]
    exact shapeStick_mono h
  · rw [← hzero]
    exact shapeStick_mono h

/-- A stick pushed far to the negative side, where a greater deadzone is beyond the saturation. -/
theorem shape_order_crossed :
    (-20000 : Int16) ≤ 500 ∧ shapeStick (-20000) 10 50 ≤ shapeStick 500 10 50 ∧
    (10 : UInt32) ≤ 60 ∧ (50 : UInt32) ≤ 55 ∧
    (shapeStick (-20000) 60 55).toInt.natAbs ≤ (shapeStick (-20000) 10 50).toInt.natAbs ∧
    shapeTrigger 200 60 55 ≤ shapeTrigger 200 10 50 := by
  obtain ⟨hmono, -, -, hanti, -, -, htrigger, -⟩ := shape_order 10 50
  exact ⟨by decide, hmono _ _ (by decide), by decide, by decide,
    hanti _ _ _ (by decide) (by decide), htrigger _ _ _ (by decide) (by decide)⟩

end VirtualPad
