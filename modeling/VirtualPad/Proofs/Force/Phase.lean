import VirtualPad.Proofs.Force.Level
import VirtualPad.Proofs.Number.Between

/-!
# Phases

The angle of a wave is rounded to a whole one before a full turn is taken off, and that is done once
at most. Once is enough. The part of a period adds at most one turn to the offset, which is a whole
step short of a turn, so the rounded angle stays short of two turns, and to take one off is all that
a remainder would do (`value_phaseAt`). Wherever the phase comes out, every waveform is between minus
one and one (`Waveform.between_value`).

Neither depends on how sums and quotients are rounded, as long as rounding passes no whole number.
If nothing but the angle is rounded, the phase is the angle since time zero, rounded and reduced to
one turn (`phaseAt_whole`).
-/

namespace VirtualPad

open Scalar Precision RealValued
open LawfulScalar (hasPower)

variable {V W : Type} [Scalar V] [RealValued V] [WholeScalar V]

/-! ## Waveforms -/

section

variable {phase : V}

theorem value_fullTurn : value? (fullTurn : V) = some ((36000 : ℤ) : ℝ) :=
  value_ofWord_whole rfl (by decide)

theorem value_fullTurn_div {w : UInt32} {k : ℤ} (hk : 0 ≤ k ∧ k ≤ 36000)
    (hw : 0 < (w.toNat : ℤ) ∧ (w.toNat : ℤ) ≤ 36000) (hpart : k * w.toNat = 36000) :
    value? (fullTurn / ofWord w : V) = some (k : ℝ) := by
  have hdivisor : value? (ofWord w : V) = some ((w.toNat : ℤ) : ℝ) :=
    value_ofWord_whole rfl (by omega)
  exact between_self_iff.mp ((between_self_iff.mpr value_fullTurn).div hdivisor hw.1 hpart.le
    hpart.ge (by omega))

theorem between_sawtooth (h : Between 0 36000 phase) : Between (-1) 1 (sawtooth phase) := by
  have hhalf : value? (fullTurn / ofWord 2 : V) = some ((18000 : ℤ) : ℝ) :=
    value_fullTurn_div (by decide) (by decide) (by decide)
  have htwo : Between 2 2 (ofWord 2 : V) :=
    between_self_iff.mpr (value_ofWord_whole rfl (by decide))
  unfold sawtooth
  dsimp only
  split
  · rename_i hrising
    exact (h.of_lt hhalf hrising).div hhalf (by decide) (by decide) (by decide) (by decide)
  · rename_i hfalling
    have hratio : Between 1 2 (phase / (fullTurn / ofWord 2)) :=
      (h.of_not_lt hhalf hfalling).div hhalf (by decide) (by decide) (by decide) (by decide)
    exact hratio.sub htwo (by decide) (by decide) (by decide)

theorem Waveform.between_value (w : Waveform) (h : Between 0 36000 phase) :
    Between (-1) 1 (w.value phase) := by
  have hwhole (n : UInt32) (k : ℤ) (hk : (n.toNat : ℤ) = k) (hsize : k ≤ 2 ^ 24) :
      Between k k (ofWord n : V) := between_self_iff.mpr (value_ofWord_whole hk hsize)
  have hone : Between 1 1 (ofWord 1 : V) := hwhole 1 1 rfl (by decide)
  cases w with
  | sine =>
    obtain ⟨s, hs, hle⟩ := bounded_sine (h.bounded (k := 52) (by decide) (by decide))
    rw [zpow_zero] at hle
    exact ⟨s, hs, by exact_mod_cast abs_le.mp hle⟩
  | square =>
    unfold value
    dsimp only
    split
    · exact hone.mono (by decide) le_rfl
    · exact hone.neg.mono le_rfl (by decide)
  | triangle =>
    have hquarter : value? (fullTurn / ofWord 4 : V) = some ((9000 : ℤ) : ℝ) :=
      value_fullTurn_div (by decide) (by decide) (by decide)
    have hthree : value? (ofWord 3 * (fullTurn / ofWord 4) : V) = some ((27000 : ℤ) : ℝ) :=
      between_self_iff.mp ((hwhole 3 3 rfl (by decide)).mul hquarter (by decide) (by decide)
        (by decide) (by decide))
    unfold value
    dsimp only
    split
    · rename_i hfirst
      exact (h.of_lt hquarter hfirst).div hquarter (by decide) (by decide) (by decide) (by decide)
    · rename_i hlater
      split
      · rename_i hmiddle
        have hratio : Between 1 3 (phase / (fullTurn / ofWord 4)) :=
          ((h.of_not_lt hquarter hlater).of_lt hthree hmiddle).div hquarter (by decide) (by decide)
            (by decide) (by decide)
        exact (hwhole 2 2 rfl (by decide)).sub hratio (by decide) (by decide) (by decide)
      · rename_i hlast
        have hratio : Between 3 4 (phase / (fullTurn / ofWord 4)) :=
          (h.of_not_lt hthree hlast).div hquarter (by decide) (by decide) (by decide) (by decide)
        exact hratio.sub (hwhole 4 4 rfl (by decide)) (by decide) (by decide) (by decide)
  | sawtoothUp => exact between_sawtooth h
  | sawtoothDown => exact (between_sawtooth h).neg

/-! ## One turn is enough -/

/-- Short of two turns, wrapping is the remainder by a full turn. -/
theorem value_wrapTurn {x : V} {n : ℤ} (hx : value? x = some (n : ℝ)) (hn : 0 ≤ n ∧ n < 72000) :
    value? (wrapTurn x) = some ((n % 36000 : ℤ) : ℝ) := by
  have hle : le fullTurn x = true ↔ 36000 ≤ n := by
    rw [LawfulScalar.le_iff value_fullTurn hx, Int.cast_le]
  unfold wrapTurn
  split
  · rename_i hturn
    rw [hle] at hturn
    have hsub : Between (n - 36000) (n - 36000) (x - fullTurn) :=
      (between_self_iff.mpr hx).sub (between_self_iff.mpr value_fullTurn) le_rfl le_rfl (by omega)
    rw [between_self_iff.mp hsub, show n % 36000 = n - 36000 by omega]
  · rename_i hturn
    rw [hle] at hturn
    rw [hx, Int.emod_eq_of_lt hn.1 (not_le.mp hturn)]

end

section

variable [Scalar W] [Precision V W]

/-- The angle of a wave at a time, before it is rounded and wrapped. -/
def unwrappedAngle (time period : UInt32) (offset : V) : W :=
  let periods : W := ofWord time / ofWord period
  (periods - floor periods) * fullTurn + widen offset

omit [Scalar V] [RealValued V] [WholeScalar V] in
theorem phaseAt_eq (time period : UInt32) (offset : V) :
    phaseAt (W := W) time period offset =
      narrow (wrapTurn (round (unwrappedAngle (W := W) time period offset))) := rfl

variable [RealValued W] [WholeScalar W] [WholePrecision V W] {offset : V} {period : UInt32}

theorem between_isAngle (h : isAngle offset = true) : Between 0 35999 offset := by
  have hzero : value? (zero : V) = some ((0 : ℤ) : ℝ) := value_ofWord_whole rfl (by decide)
  have hmax : value? (ofWord 35999 : V) = some ((35999 : ℤ) : ℝ) :=
    value_ofWord_whole rfl (by decide)
  exact Between.of_within hzero hmax h

theorem between_unwrappedAngle (time : UInt32) (hperiod : 0 < period)
    (h : isAngle offset = true) :
    Between 0 71999 (unwrappedAngle (W := W) time period offset) := by
  have hlength : Above 0 (ofWord period : W) :=
    above_ofWord (by decide) (UInt32.lt_iff_toNat_lt.mp hperiod)
  have hperiods : Bounded 32 (ofWord time / ofWord period : W) :=
    (bounded_word time).div hlength (by decide) (hasPower (by decide))
  obtain ⟨s, hs, -⟩ := hperiods
  -- The quotient may be any finite value, since only its fraction counts. That may be rounded up to
  -- one, so a whole turn is added to the offset at most.
  have hturned : Between 0 36000
      ((ofWord time / ofWord period - floor (ofWord time / ofWord period)) * fullTurn : W) :=
    (Between.sub_floor hs).mul value_fullTurn (by decide) (by decide) (by decide) (by decide)
  exact hturned.add (between_isAngle h).widen (by decide) (by decide) (by decide)

theorem value_phaseAt (time : UInt32) (hperiod : 0 < period) (h : isAngle offset = true) :
    ∃ r, value? (unwrappedAngle (W := W) time period offset) = some r ∧
      value? (phaseAt (W := W) time period offset) = some ((nearest r % 36000 : ℤ) : ℝ) := by
  obtain ⟨r, hr, hlow, hhigh⟩ := between_unwrappedAngle (W := W) time hperiod h
  -- The bounds are whole, so rounding the angle keeps them.
  have hmin : 0 ≤ nearest r := by
    have hmono := nearest_mono hlow
    rwa [nearest_intCast] at hmono
  have hmax : nearest r ≤ 71999 := by
    have hmono := nearest_mono hhigh
    rwa [nearest_intCast] at hmono
  refine ⟨r, hr, ?_⟩
  rw [phaseAt_eq]
  exact value_narrow_whole (value_wrapTurn (WholeScalar.value_round hr) (by omega)) (by omega)

theorem between_phaseAt (time : UInt32) (hperiod : 0 < period) (h : isAngle offset = true) :
    Between 0 35999 (phaseAt (W := W) time period offset) := by
  obtain ⟨r, -, hphase⟩ := value_phaseAt (W := W) time hperiod h
  exact (between_self_iff.mpr hphase).mono (by omega) (by omega)

end

/-! ## Exact angles -/

/-- Whole turns make no difference to the phase. -/
theorem nearest_turns_emod {a q : ℝ} (ha : 0 ≤ a) (hq : 0 ≤ q) :
    nearest (36000 * q + a) % 36000 = nearest (Int.fract q * 36000 + a) % 36000 := by
  have hfract : 0 ≤ Int.fract q * 36000 + a :=
    add_nonneg (mul_nonneg (Int.fract_nonneg q) (by norm_num)) ha
  have hwhole : 0 ≤ 36000 * ⌊q⌋ := mul_nonneg (by decide) (Int.floor_nonneg.mpr hq)
  have hsplit : 36000 * q + a = Int.fract q * 36000 + a + ((36000 * ⌊q⌋ : ℤ) : ℝ) := by
    rw [Int.cast_mul, Int.cast_ofNat, ← Int.self_sub_floor]
    ring
  rw [hsplit, nearest_add_intCast hfract hwhole, Int.add_mul_emod_self_left]

section

variable [Precision V Exact] [WholePrecision V Exact] {offset : V}

omit [WholeScalar V] in
theorem value_unwrappedAngle (time period : UInt32) {a : ℝ} (ha : value? offset = some a) :
    (unwrappedAngle (W := Exact) time period offset).value =
      Int.fract ((time.toNat : ℝ) / period.toNat) * 36000 + a := by
  have hwiden : value? (widen offset : Exact) = some a := LawfulPrecision.widen ha
  have hturn : value? (fullTurn : Exact) = some ((36000 : ℤ) : ℝ) := value_fullTurn
  rw [← Option.some.inj hwiden, ← Int.cast_ofNat, ← Option.some.inj hturn, ← Int.self_sub_floor]
  rfl

/-- At every time, under every period but zero and from every offset that is an angle, whole or not,
the phase is the exact angle since time zero, rounded to a whole one and reduced to one turn. It is
whole and less than a turn, and every waveform is between minus one and one there. -/
theorem phaseAt_whole (time period : UInt32) (hperiod : 0 < period)
    (hoffset : isAngle offset = true) :
    ∃ (a : ℝ) (n : ℤ), value? offset = some a ∧
      n = nearest (36000 * ((time.toNat : ℝ) / period.toNat) + a) % 36000 ∧
      0 ≤ n ∧ n ≤ 35999 ∧
      value? (phaseAt (W := Exact) time period offset) = some (n : ℝ) ∧
      ∀ w : Waveform, Between (-1) 1 (w.value (phaseAt (W := Exact) time period offset)) := by
  obtain ⟨a, ha, hlow, -⟩ := between_isAngle hoffset
  obtain ⟨r, hr, hphase⟩ := value_phaseAt (W := Exact) time hperiod hoffset
  have hexact : r = Int.fract ((time.toNat : ℝ) / period.toNat) * 36000 + a := by
    rw [← value_unwrappedAngle time period ha]
    exact (Option.some.inj hr).symm
  have hnonneg : 0 ≤ a := by exact_mod_cast hlow
  rw [hexact, ← nearest_turns_emod hnonneg (by positivity)] at hphase
  have hturn : Between 0 36000 (phaseAt (W := Exact) time period offset) :=
    (between_phaseAt time hperiod hoffset).mono le_rfl (by decide)
  exact ⟨a, _, ha, rfl, by omega, by omega, hphase, fun w => w.between_value hturn⟩

end

/-- Half a step short of a full turn is rounded up to it and starts over; half a step short of the
last angle of a second turn comes to the last one. -/
theorem phaseAt_whole_half :
    let half : Exact := ⟨17999 + 1 / 2⟩
    let last : Exact := ⟨35999⟩
    (0 : UInt32) < 2 ∧ isAngle half = true ∧ phaseAt (W := Exact) 1 2 half = ⟨0⟩ ∧
      (0 : UInt32) < 72000 ∧ isAngle last = true ∧
      phaseAt (W := Exact) 71999 72000 last = ⟨35999⟩ ∧
      (Waveform.triangle.value (phaseAt (W := Exact) 71999 72000 last)).value ∈ Set.Icc (-1) 1 := by
  intro half last
  have hangle (a : Exact) (hlow : 0 ≤ a.value) (hhigh : a.value ≤ 35999) : isAngle a = true := by
    rw [isAngle, within, Bool.and_eq_true]
    refine ⟨decide_eq_true ?_, decide_eq_true ?_⟩
    · simpa [zero, ofWord] using hlow
    · simpa [ofWord] using hhigh
  have hhalf : isAngle half = true := hangle half (by norm_num [half]) (by norm_num [half])
  have hlast : isAngle last = true := hangle last (by norm_num [last]) (by norm_num [last])
  obtain ⟨a, n, ha, hn, -, -, hfirst, -⟩ := phaseAt_whole 1 2 (by decide) hhalf
  obtain ⟨b, m, hb, hm, -, -, hsecond, hwave⟩ := phaseAt_whole 71999 72000 (by decide) hlast
  have hstart : n = 0 := by
    have hsum : (36000 * (((1 : UInt32).toNat : ℝ) / (2 : UInt32).toNat) + a : ℝ) =
        (35999 : ℕ) + 1 / 2 := by
      rw [← Option.some.inj ha]
      simp only [UInt32.reduceToNat, half]
      norm_num
    rw [hn, hsum, nearest_add_half]
    rfl
  have hend : m = 35999 := by
    have hsum : (36000 * (((71999 : UInt32).toNat : ℝ) / (72000 : UInt32).toNat) + b : ℝ) =
        (71998 : ℕ) + 1 / 2 := by
      rw [← Option.some.inj hb]
      simp only [UInt32.reduceToNat, last]
      norm_num
    rw [hm, hsum, nearest_add_half]
    rfl
  subst hstart hend
  refine ⟨by decide, hhalf, ?_, by decide, hlast, ?_, ?_⟩
  · exact congrArg Exact.mk ((Option.some.inj hfirst).trans Int.cast_zero)
  · exact congrArg Exact.mk ((Option.some.inj hsecond).trans (by norm_num))
  · have htriangle := Exact.between_iff.mp (hwave .triangle)
    exact_mod_cast htriangle

end VirtualPad
