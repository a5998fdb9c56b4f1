import Mathlib.Analysis.Convex.Segment
import VirtualPad.Proofs.Force.Evaluation
import VirtualPad.Proofs.Number.Exact

/-!
# Envelopes

In exact arithmetic an envelope leads in a straight line from the attack level to the level that is
sustained, and from there to the fade level (`ramp_mem`). So an enveloped level lies between levels
that were checked, and a magnitude never exceeds the gain (`attemptAll_enveloped`).

The bound does not depend on the waveform. Whatever it multiplies the level with, the sum with the
offset is clamped; hence the sine, the rounding of phases and the arithmetic in which phases are
worked out may be any.
-/

namespace VirtualPad

open Scalar ExactScalar

variable {V W : Type} [Scalar V] [Scalar W] [Precision V W] [ExactScalar V]

/-! ## Levels -/

theorem value_zero_exact : value (zero : V) = 0 := by
  rw [zero, value_ofWord]
  norm_num

theorem value_gainMax : value (ofWord gainMax : V) = 10000 := by
  rw [value_ofWord, show gainMax.toNat = 10000 from rfl]
  norm_num

theorem value_magnitudeMax : value (magnitudeMax : V) = 10000 := value_gainMax

theorem within_iff {low high a : V} :
    within low high a = true ↔ value a ∈ Set.Icc (value low) (value high) := by
  rw [within, Bool.and_eq_true, le_iff, le_iff, Set.mem_Icc]

theorem level_mem {a : V} (h : within zero magnitudeMax a = true) : value a ∈ Set.Icc 0 10000 := by
  rwa [within_iff, value_zero_exact, value_magnitudeMax] at h

theorem abs_clamp_le (a : V) : |value (clamp (-magnitudeMax) magnitudeMax a)| ≤ 10000 := by
  have hmax : value (magnitudeMax : V) = 10000 := value_magnitudeMax
  have hmin : value (-magnitudeMax : V) = -10000 := by rw [value_neg, hmax]
  rw [abs_le, clamp]
  split
  · rw [hmin]
    norm_num
  · rename_i hlow
    rw [lt_iff, hmin, not_lt] at hlow
    split
    · rw [hmax]
      norm_num
    · rename_i hhigh
      rw [lt_iff, hmax, not_lt] at hhigh
      exact ⟨hlow, hhigh⟩

/-! ## Ramps -/

theorem ramp_mem (u w : V) {length time : UInt32} (hlength : 0 < length) (htime : time ≤ length) :
    value (u + (w - u) / ofWord length * ofWord time) ∈ Set.uIcc (value u) (value w) := by
  have hlength : (0 : ℝ) < length.toNat := Nat.cast_pos.2 (UInt32.lt_iff_toNat_lt.1 hlength)
  have htime : (time.toNat : ℝ) ≤ length.toNat := Nat.cast_le.2 (UInt32.le_iff_toNat_le.1 htime)
  have hdiv : value (ofWord length : V) ≠ 0 := by
    rw [value_ofWord]
    exact hlength.ne'
  -- The value is that of a line between the two levels, where a part of the time is over.
  have hline : value (u + (w - u) / ofWord length * ofWord time) =
      AffineMap.lineMap (value u) (value w) ((time.toNat : ℝ) / length.toNat) := by
    rw [AffineMap.lineMap_apply_ring', value_add, value_mul, value_div _ _ hdiv, value_sub,
      value_ofWord, value_ofWord]
    ring
  rw [hline, ← segment_eq_uIcc, segment_eq_image_lineMap]
  exact ⟨_, ⟨div_nonneg (Nat.cast_nonneg _) hlength.le, (div_le_one hlength).2 htime⟩, rfl⟩

namespace Effect

theorem enveloped_attack {e : Effect V} {v : Envelope V} (hv : e.envelope = some v)
    {time : UInt32} (h : time < v.attackTime) (sustain : V) :
    value (e.enveloped time sustain) ∈ Set.uIcc (value v.attackLevel) (value sustain) := by
  rw [enveloped, hv]
  dsimp only
  rw [if_pos h]
  exact ramp_mem _ _ (UInt32.lt_of_le_of_lt UInt32.zero_le h) (UInt32.le_of_lt h)

theorem enveloped_fade {e : Effect V} {v : Envelope V} {duration time : UInt32}
    (hv : e.envelope = some v) (hduration : e.duration = some duration)
    (hattack : v.attackTime ≤ time) (hfade : duration.toNat < time.toNat + v.fadeTime.toNat)
    (hfits : v.fadeTime ≤ duration) (htime : time ≤ duration) (sustain : V) :
    value (e.enveloped time sustain) ∈ Set.uIcc (value v.fadeLevel) (value sustain) := by
  rw [UInt32.le_iff_toNat_le] at hfits htime
  have hstart : fadeStart duration v = duration - v.fadeTime :=
    if_pos (UInt32.le_iff_toNat_le.2 hfits)
  have hnat : (duration - v.fadeTime).toNat = duration.toNat - v.fadeTime.toNat :=
    UInt32.toNat_sub_of_le _ _ (UInt32.le_iff_toNat_le.2 hfits)
  have hafter : duration - v.fadeTime < time := by
    rw [UInt32.lt_iff_toNat_lt, hnat]
    omega
  have hpos : 0 < v.fadeTime := by
    rw [UInt32.lt_iff_toNat_lt, UInt32.toNat_zero]
    omega
  have hsince : time - (duration - v.fadeTime) ≤ v.fadeTime := by
    rw [UInt32.le_iff_toNat_le, UInt32.toNat_sub_of_le _ _ (UInt32.le_of_lt hafter), hnat]
    omega
  rw [enveloped, hv, hduration]
  dsimp only [Option.getD_some]
  rw [if_neg (UInt32.not_lt.2 hattack), hstart, if_pos ⟨hafter, hpos⟩, Set.uIcc_comm]
  exact ramp_mem _ _ hpos hsince

omit [ExactScalar V] in
theorem enveloped_sustain {e : Effect V} {v : Envelope V} {duration time : UInt32}
    (hv : e.envelope = some v) (hduration : e.duration = some duration)
    (hattack : v.attackTime ≤ time) (hfade : time.toNat + v.fadeTime.toNat ≤ duration.toNat)
    (sustain : V) : e.enveloped time sustain = sustain := by
  have hfits : v.fadeTime ≤ duration := UInt32.le_iff_toNat_le.2 (by omega)
  have hbefore : ¬fadeStart duration v < time := by
    rw [fadeStart, if_pos hfits, UInt32.lt_iff_toNat_lt, UInt32.toNat_sub_of_le _ _ hfits]
    omega
  rw [enveloped, hv, hduration]
  dsimp only [Option.getD_some]
  rw [if_neg (UInt32.not_lt.2 hattack), if_neg fun h => hbefore h.1]

omit [ExactScalar V] in
theorem Sound.fadeTime_le {e : Effect V} (he : e.Sound) {v : Envelope V} {duration : UInt32}
    (hv : e.envelope = some v) (hduration : e.duration = some duration) :
    v.fadeTime ≤ duration := by
  obtain ⟨-, -, hfits⟩ := he.envelope v hv
  rw [hduration, Option.all_some] at hfits
  rw [UInt32.le_iff_toNat_le]
  by_cases hfinite : duration = infiniteTime
  · have hlt := v.fadeTime.toNat_lt
    rw [hfinite]
    show v.fadeTime.toNat ≤ 2 ^ 32 - 1
    omega
  · have hsum := Envelope.sum_le_of_fits hfits hfinite
    omega

theorem Sound.enveloped_mem {e : Effect V} (he : e.Sound) {duration time : UInt32}
    (hduration : e.duration = some duration) (htime : time ≤ duration) {sustain : V}
    (hs : value sustain ∈ Set.Icc 0 10000) :
    value (e.enveloped time sustain) ∈ Set.Icc 0 10000 := by
  cases hv : e.envelope with
  | none =>
    rw [enveloped, hv]
    exact hs
  | some v =>
    obtain ⟨hattack, hfade, -⟩ := he.envelope v hv
    by_cases hbefore : time < v.attackTime
    · exact Set.uIcc_subset_Icc (level_mem hattack) hs (enveloped_attack hv hbefore sustain)
    · have hbefore := UInt32.not_lt.1 hbefore
      by_cases hafter : duration.toNat < time.toNat + v.fadeTime.toNat
      · exact Set.uIcc_subset_Icc (level_mem hfade) hs
          (enveloped_fade hv hduration hbefore hafter (he.fadeTime_le hv hduration) htime sustain)
      · rw [enveloped_sustain hv hduration hbefore (Nat.not_lt.1 hafter)]
        exact hs

/-! ## Magnitudes -/

theorem Sound.abs_rawMagnitude_le {e : Effect V} (he : e.Sound) {duration time : UInt32}
    (hduration : e.duration = some duration) (htime : time ≤ duration) :
    |value (e.rawMagnitude (W := W) time)| ≤ 10000 := by
  have hkind := he.kind
  unfold rawMagnitude
  split
  · rename_i m hm
    rw [hm, EffectKind.check] at hkind
    split at hkind
    · rename_i hm
      rw [within_iff, value_neg, value_magnitudeMax] at hm
      split
      · rename_i hsign
        rw [le_iff, value_zero_exact] at hsign
        have hlevel := he.enveloped_mem hduration htime ⟨hsign, hm.2⟩
        rw [abs_of_nonneg hlevel.1]
        exact hlevel.2
      · rename_i hsign
        rw [le_iff, value_zero_exact, not_le] at hsign
        have hsustain : value (-m) ∈ Set.Icc 0 10000 := by
          rw [value_neg]
          exact ⟨by linarith, by linarith [hm.1]⟩
        have hlevel := he.enveloped_mem hduration htime hsustain
        rw [value_neg, abs_neg, abs_of_nonneg hlevel.1]
        exact hlevel.2
    · cases hkind
  · exact abs_clamp_le _

omit [ExactScalar V] in
theorem magnitude_of_duration_le {e : Effect V} {time : UInt32} (h : e.duration.getD 0 ≤ time) :
    e.magnitude (W := W) time = zero := if_pos (decide_eq_true h)

theorem Sound.abs_magnitude_le {e : Effect V} (he : e.Sound) (time : UInt32) :
    |value (e.magnitude (W := W) time)| ≤ e.gain.toNat := by
  by_cases hover : e.duration.getD 0 ≤ time
  · rw [magnitude_of_duration_le hover, value_zero_exact, abs_zero]
    exact Nat.cast_nonneg _
  · obtain ⟨duration, hduration⟩ : ∃ duration, e.duration = some duration := by
      cases h : e.duration with
      | none => exact absurd (h ▸ UInt32.zero_le) hover
      | some duration => exact ⟨duration, rfl⟩
    have hbefore : time ≤ duration := by
      rw [hduration, Option.getD_some, UInt32.not_le] at hover
      exact UInt32.le_of_lt hover
    have hrest : time % e.samplePeriod ≤ time := by
      rw [UInt32.le_iff_toNat_le, UInt32.toNat_mod]
      exact Nat.mod_le ..
    have hsample : time - time % e.samplePeriod ≤ duration := by
      rw [UInt32.le_iff_toNat_le] at hbefore ⊢
      rw [UInt32.toNat_sub_of_le _ _ hrest]
      omega
    have hraw := he.abs_rawMagnitude_le (W := W) hduration hsample
    have hunit : value (ofWord gainMax : V) ≠ 0 := by
      rw [value_gainMax]
      norm_num
    have hfraction : (0 : ℝ) ≤ e.gain.toNat / 10000 := by positivity
    have hplays : ¬e.isFinishedAt time = true := fun h => hover (of_decide_eq_true h)
    rw [magnitude, if_neg hplays, value_mul, value_div _ _ hunit,
      value_gainMax, value_ofWord, abs_mul, abs_of_nonneg hfraction]
    calc
      _ ≤ 10000 * (e.gain.toNat / 10000 : ℝ) := mul_le_mul_of_nonneg_right hraw hfraction
      _ = e.gain.toNat := by ring

/-- However an effect was changed after it was created, its level is between the attack level and
the sustained one while the attack lasts, between the fade level and the sustained one while it
fades, and the sustained one otherwise. Its magnitude is at most the gain at every time, and zero
from the end of its duration on. -/
theorem attemptAll_enveloped {id : UInt32} {kind : EffectKind V} {new : Effect V}
    (h : create id kind = .ok new) (changes : List (EffectChange V)) :
    let e := new.attemptAll changes
    (∀ v time sustain, e.envelope = some v → time < v.attackTime →
      value (e.enveloped time sustain) ∈ Set.uIcc (value v.attackLevel) (value sustain)) ∧
    (∀ v duration time sustain, e.envelope = some v → e.duration = some duration →
      v.attackTime ≤ time → time ≤ duration →
        (duration.toNat < time.toNat + v.fadeTime.toNat →
          value (e.enveloped time sustain) ∈ Set.uIcc (value v.fadeLevel) (value sustain)) ∧
        (time.toNat + v.fadeTime.toNat ≤ duration.toNat → e.enveloped time sustain = sustain)) ∧
    (∀ time sustain, e.envelope = none → e.enveloped time sustain = sustain) ∧
    ∀ time, |value (e.magnitude (W := W) time)| ≤ e.gain.toNat ∧
      (e.duration.getD 0 ≤ time → e.magnitude (W := W) time = zero) := by
  intro e
  have hsound : e.Sound :=
    attemptAll_induction (fun he ha => ha.sound he) (sound_create h) changes
  refine ⟨fun v time sustain hv hattack => enveloped_attack hv hattack sustain,
    fun v duration time sustain hv hduration hattack htime => ⟨fun hfade => ?_, fun hfade => ?_⟩,
    fun time sustain hv => ?_,
    fun time => ⟨hsound.abs_magnitude_le time, fun hover => magnitude_of_duration_le hover⟩⟩
  · exact enveloped_fade hv hduration hattack hfade (hsound.fadeTime_le hv hduration) htime sustain
  · exact enveloped_sustain hv hduration hattack hfade sustain
  · rw [enveloped, hv]

/-- A negative constant sets in from zero and fades to half of its level, with half the gain. -/
theorem attemptAll_enveloped_negative :
    let level (n : ℕ) : Exact := ⟨n⟩
    let new : Effect Exact :=
      { id := 1, kind := .constant (-level 1000), duration := none, samplePeriod := 1,
        gain := gainMax, envelope := none, direction := .default, axes := [] }
    let v : Envelope Exact := ⟨100, level 0, 200, level 500⟩
    let changes : List (EffectChange Exact) := [.envelope (some v), .duration 1000, .gain 5000]
    let e := new.attemptAll changes
    create 1 (.constant (-level 1000)) = .ok new ∧ e.envelope = some v ∧
      e.duration = some 1000 ∧ e.gain = 5000 ∧
      (e.enveloped 50 (level 1000)).value ∈ Set.uIcc (0 : ℝ) 1000 ∧
      (e.enveloped 900 (level 1000)).value ∈ Set.uIcc (500 : ℝ) 1000 ∧
      e.enveloped 800 (level 1000) = level 1000 ∧
      ∀ time, |(e.magnitude (W := Exact) time).value| ≤ 5000 := by
  intro level new v changes e
  have hlevel {n : ℕ} (hn : n ≤ 10000) : within zero magnitudeMax (level n) = true := by
    rw [within_iff, value_zero_exact, value_magnitudeMax]
    have hmax : (n : ℝ) ≤ 10000 := by exact_mod_cast hn
    exact ⟨Nat.cast_nonneg n, hmax⟩
  have hcreate : create 1 (.constant (-level 1000)) = .ok new := by
    have hkind : within (-magnitudeMax) magnitudeMax (-level 1000) = true := by
      rw [within_iff, value_neg, value_neg, value_magnitudeMax]
      simp only [level, value]
      norm_num
    rw [create, EffectKind.check, if_pos hkind]
    rfl
  have henvelope : (new.change (.envelope (some v))).1 = { new with envelope := some v } := by
    have hattack : within zero magnitudeMax v.attackLevel = true := hlevel (by decide)
    have hfade : within zero magnitudeMax v.fadeLevel = true := hlevel (by decide)
    rw [change, setEnvelope]
    simp only [hattack, hfade]
    rfl
  have he : e = { new with duration := some 1000, envelope := some v, gain := 5000 } := by
    have hsteps : e = (((new.change (.envelope (some v))).1.change (.duration 1000)).1.change
        (.gain 5000)).1 := rfl
    rw [hsteps, henvelope]
    rfl
  have hv : e.envelope = some v := by rw [he]
  have hduration : e.duration = some 1000 := by rw [he]
  have hgain : e.gain = 5000 := by rw [he]
  obtain ⟨hattack, hafter, -, hmagnitude⟩ := attemptAll_enveloped (W := Exact) hcreate changes
  have hramp := hattack v 50 (level 1000) hv (by decide)
  have hfade := (hafter v 1000 900 (level 1000) hv hduration (by decide) (by decide)).1 (by decide)
  have hsustain :=
    (hafter v 1000 800 (level 1000) hv hduration (by decide) (by decide)).2 (by decide)
  refine ⟨hcreate, hv, hduration, hgain, ?_, ?_, hsustain, fun time => ?_⟩
  · simpa [level, v, value] using hramp
  · simpa [level, v, value] using hfade
  · have h := (hmagnitude time).1
    rw [hgain] at h
    exact h

end Effect

end VirtualPad
