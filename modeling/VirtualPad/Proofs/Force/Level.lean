import VirtualPad.Proofs.Force.Made
import VirtualPad.Proofs.Number.Rounded

/-!
# Magnitudes are finite

How large anything can get on the way from the parameters of an effect to its magnitude, by powers
of two. The bounds are generous: all that matters is that nothing overflows, since infinities are
what cancels to something that is not a number.
-/

namespace VirtualPad

open Scalar Precision RealValued
open LawfulScalar (hasPower)

variable {V W : Type} [Scalar V] [Scalar W] [Precision V W]

section

variable [RealValued V] [LawfulScalar V]

/-! ## Parameters -/

theorem bounded_magnitudeMax : Bounded 14 (magnitudeMax : V) :=
  bounded_ofWord (by decide) (by decide)

theorem neg_magnitudeMax_le : le (-magnitudeMax) (magnitudeMax : V) = true := by
  obtain ⟨s, hs, hnonneg, -⟩ := rounds_ofWord (α := V) 10000
  exact (LawfulScalar.le_iff (LawfulScalar.neg hs) hs).mpr (by linarith)

theorem bounded_signed {m : V} (h : within (-magnitudeMax) magnitudeMax m = true) : Bounded 14 m :=
  bounded_of_within bounded_magnitudeMax.neg bounded_magnitudeMax h

theorem bounded_level {m : V} (h : within zero magnitudeMax m = true) : Bounded 14 m :=
  bounded_of_within (bounded_zero (by decide)) bounded_magnitudeMax h

theorem bounded_angle {a : V} (h : isAngle a = true) : Bounded 16 a :=
  bounded_of_within (bounded_zero (by decide)) (bounded_ofWord (by decide) (by decide)) h

theorem bounded_fullTurn : Bounded 16 (fullTurn : V) := bounded_ofWord (by decide) (by decide)

theorem above_fullTurn : Above 15 (fullTurn : V) := above_ofWord (by decide) (by decide)

theorem bounded_wrapTurn {a : V} {k m : ℤ} (h : Bounded k a) (hk : k + 1 ≤ m) (hm : 17 ≤ m)
    (hp : HasPower V m) : Bounded m (wrapTurn a) := by
  unfold wrapTurn
  split
  · exact h.sub bounded_fullTurn hk (by omega) hp
  · exact h.mono (by omega)

/-! ## Envelopes -/

theorem bounded_line {u v : V} (hu : Bounded 14 u) (hv : Bounded 14 v) {length : UInt32}
    (hlength : 0 < length) (time : UInt32) :
    Bounded 48 (u + (v - u) / ofWord length * ofWord time) := by
  have hrise : Bounded 15 (v - u) := hv.sub hu (by decide) (by decide) (hasPower (by decide))
  have hlength : Above 0 (ofWord length : V) :=
    above_ofWord (by decide) (UInt32.lt_iff_toNat_lt.mp hlength)
  have hslope : Bounded 15 ((v - u) / ofWord length) :=
    hrise.div hlength (by decide) (hasPower (by decide))
  have hchange : Bounded 47 ((v - u) / ofWord length * ofWord time) :=
    hslope.mul (bounded_word time) (by decide) (hasPower (by decide))
  exact hu.add hchange (by decide) (by decide) (hasPower (by decide))

theorem Effect.bounded_enveloped {e : Effect V} (he : e.Sound) (time : UInt32) {sustain : V}
    (h : Bounded 14 sustain) : Bounded 48 (e.enveloped time sustain) := by
  unfold enveloped
  cases hv : e.envelope with
  | none => exact h.mono (by decide)
  | some v =>
    obtain ⟨hattack, hfade, -⟩ := he.envelope v hv
    dsimp only
    split
    · rename_i htime
      exact bounded_line (bounded_level hattack) h (UInt32.lt_of_le_of_lt UInt32.zero_le htime) _
    · split
      · rename_i htime
        exact bounded_line h (bounded_level hfade) htime.2 _
      · exact h.mono (by decide)

/-! ## Waveforms -/

theorem above_quarterTurn : Above 13 (fullTurn / ofWord 4 : V) :=
  Above.div (i := 15) (j := 16) (k := 2) (l := 2) above_fullTurn bounded_fullTurn
    (above_ofWord (by decide) (by decide)) (bounded_ofWord (by decide) (by decide))
    (hasPower (by decide)) (hasPower (by decide))

theorem above_halfTurn : Above 14 (fullTurn / ofWord 2 : V) :=
  Above.div (i := 15) (j := 16) (k := 1) (l := 1) above_fullTurn bounded_fullTurn
    (above_ofWord (by decide) (by decide)) (bounded_ofWord (by decide) (by decide))
    (hasPower (by decide)) (hasPower (by decide))

theorem bounded_sawtooth {phase : V} (h : Bounded 52 phase) : Bounded 40 (sawtooth phase) := by
  have htwo : Bounded 1 (ofWord 2 : V) := bounded_ofWord (by decide) (by decide)
  have hratio : Bounded 38 (phase / (fullTurn / ofWord 2)) :=
    h.div above_halfTurn (by decide) (hasPower (by decide))
  unfold sawtooth
  dsimp only
  split
  · exact hratio.mono (by decide)
  · exact hratio.sub htwo (by decide) (by decide) (hasPower (by decide))

theorem Waveform.bounded_sine {phase : V} (h : Bounded 52 phase) :
    Bounded 0 (Waveform.sine.value phase) := by
  have hdegrees : Bounded 46 (phase / ofWord 100) :=
    h.div (k := 6) (above_ofWord (by decide) (by decide)) (by decide) (hasPower (by decide))
  have hradians : Bounded 46 (phase / ofWord 100 * degree) :=
    hdegrees.mul bounded_degree (by decide) (hasPower (by decide))
  exact bounded_sin hradians

theorem Waveform.bounded_value (w : Waveform) {phase : V} (h : Bounded 52 phase) :
    Bounded 40 (w.value phase) := by
  have hone : Bounded 0 (ofWord 1 : V) := bounded_ofWord (by decide) (by decide)
  cases w with
  | sine => exact (bounded_sine h).mono (by decide)
  | square =>
    unfold value
    dsimp only
    split
    · exact hone.mono (by decide)
    · exact hone.neg.mono (by decide)
  | triangle =>
    have hratio : Bounded 39 (phase / (fullTurn / ofWord 4)) :=
      h.div above_quarterTurn (by decide) (hasPower (by decide))
    have hword (n : UInt32) (hn : n.toNat ≤ 2 ^ 2) : Bounded 2 (ofWord n : V) :=
      bounded_ofWord (by decide) hn
    unfold value
    dsimp only
    split
    · exact hratio.mono (by decide)
    · split
      · exact (hword 2 (by decide)).sub hratio (by decide) (by decide) (hasPower (by decide))
      · exact hratio.sub (hword 4 (by decide)) (by decide) (by decide) (hasPower (by decide))
  | sawtoothUp => exact bounded_sawtooth h
  | sawtoothDown => exact (bounded_sawtooth h).neg

end

variable [RealValued V] [LawfulScalar V] [RealValued W] [LawfulScalar W] [LawfulPrecision V W]

theorem bounded_phaseAt (time : UInt32) {period : UInt32} (hperiod : 0 < period) {offset : V}
    (h : isAngle offset = true) : Bounded 52 (phaseAt (W := W) time period offset) := by
  have hlength : Above 0 (ofWord period : W) :=
    above_ofWord (by decide) (UInt32.lt_iff_toNat_lt.mp hperiod)
  have hperiods : Bounded 32 (ofWord time / ofWord period : W) :=
    (bounded_word time).div hlength (by decide) (hasPower (by decide))
  have hpart := hperiods.sub (m := 33) (hperiods.floor (by decide) (hasPower (by decide)))
    (by decide) (by decide) (hasPower (by decide))
  have hturned := hpart.mul (m := 49) bounded_fullTurn (by decide) (hasPower (by decide))
  have hshifted := hturned.add (m := 50) (bounded_angle h).widen (by decide) (by decide)
    (hasPower (by decide))
  have hrounded := hshifted.round (by decide) (hasPower (by decide))
  exact (bounded_wrapTurn hrounded (by decide) (by decide) (hasPower (by decide))).narrow
    (hasPower (by decide))

namespace Effect

theorem bounded_rawMagnitude {e : Effect V} (he : e.Sound) (time : UInt32) :
    Bounded 48 (e.rawMagnitude time) := by
  have hkind := he.kind
  unfold rawMagnitude
  cases hk : e.kind with
  | constant m =>
    rw [hk, EffectKind.check] at hkind
    split at hkind
    · rename_i hm
      have hm := bounded_signed hm
      dsimp only
      split
      · exact bounded_enveloped he time hm
      · exact (bounded_enveloped he time hm.neg).neg
    · cases hkind
  | periodic waveform amplitude offset phase period =>
    rw [hk, EffectKind.check] at hkind
    split at hkind
    · cases hkind
    split at hkind
    · cases hkind
    split at hkind
    · cases hkind
    split at hkind
    · cases hkind
    rename_i hamplitude hoffset hphase hperiod
    rw [Bool.not_eq_true, Bool.not_eq_false'] at hamplitude hoffset hphase
    have hperiod : 0 < period := UInt32.pos_iff_ne_zero.mpr hperiod
    have hlevel := bounded_enveloped he time (bounded_level hamplitude)
    have hwave := waveform.bounded_value (bounded_phaseAt (W := W) time hperiod hphase)
    have hsum := (hlevel.mul (m := 88) hwave (by decide) (hasPower (by decide))).add (m := 89)
      (bounded_signed hoffset) (by decide) (by decide) (hasPower (by decide))
    -- The clamp brings it down again, now that it is known to clamp a number.
    have hclamped := within_clamp neg_magnitudeMax_le (isNaN_of_isSome hsum.isSome)
    exact (bounded_signed hclamped).mono (by decide)

theorem bounded_magnitude {e : Effect V} (he : e.Sound) (time : UInt32) :
    Bounded 49 (e.magnitude time) := by
  have hgain : Bounded 14 (ofWord e.gain : V) := by
    refine bounded_ofWord (by decide) ?_
    have : e.gain.toNat ≤ 10000 := UInt32.le_iff_toNat_le.mp he.gain
    exact this.trans (by decide)
  have hpart : Bounded 1 (ofWord e.gain / ofWord gainMax : V) :=
    hgain.div (k := 13) (above_ofWord (by decide) (by decide)) (by decide) (hasPower (by decide))
  unfold magnitude
  split
  · exact bounded_zero (by decide)
  · exact (bounded_rawMagnitude he _).mul hpart (by decide) (hasPower (by decide))

end Effect

end VirtualPad
