import VirtualPad.Force.Effect
import VirtualPad.Proofs.Number.Words

/-!
# Quotients of words

The quotient of a word and a scale is a number in single precision: it neither overflows nor is it
undefined. So a product of zero with it is zero again (`zero_mul_ofWord_div`). What is followed from
one operation to the next is a bound on exponents, `Small`.
-/

namespace VirtualPad.Floating

open Float.Model (Format UnpackedFloat totalExponent)
open Float.Model.UnpackedFloat
open Scalar

variable {spec : Format} {k : Int}

/-- Zero, or a finite number that fits into the format, with an exponent up to a bound. -/
inductive Small (spec : Format) (k : Int) : UnpackedFloat → Prop where
  | zero (s : Sign) : Small spec k (.zero s)
  | finite (s : Sign) {m : Nat} {e : Int} (hm : 0 < m) (hbits : m < 2 ^ spec.mantissaBits)
    (hmin : spec.minExponent ≤ e) (hmax : e ≤ k) : Small spec k (.finite s m e hm)

theorem Small.mono {x : UnpackedFloat} (h : Small spec k x) {k' : Int} (hk : k ≤ k') :
    Small spec k' x := by
  cases h with
  | zero s => exact .zero s
  | finite s hm hbits hmin hmax => exact .finite s hm hbits hmin (Int.le_trans hmax hk)

/-! ## Rounding -/

theorem log2_lt_of_lt {m n : Nat} (hn : 0 < n) (h : m < 2 ^ n) : m.log2 < n := by
  by_cases hm : m = 0
  · rw [hm]
    exact hn
  · exact (Nat.log2_lt hm).mpr h

/-- Rounding drops the digits for which there is no room, and may carry one digit further. -/
theorem small_roundWithAccuracy (s : Sign) {m : Nat} {e : Int} (he : spec.minExponent ≤ e)
    (a : Accuracy) :
    Small spec (e + (m.log2 + 1 - spec.mantissaBits : Nat) + 1) (roundWithAccuracy spec s m e a) := by
  let first := shiftToTargetExponent spec m e a
  let rounded := first.1.roundedMantissa
  have he₁ : spec.minExponent ≤ first.2 := Int.le_trans he (le_shiftToTargetExponent m he a)
  have hfirst : first.2 = _ := (shiftToTargetExponent_eq m he a).2
  let second := shiftToTargetExponent spec rounded first.2 .exact
  have hsecond : second.2 = _ := (shiftToTargetExponent_eq rounded he₁ .exact).2
  -- A carry makes the mantissa at most one digit too long.
  have hcarry : rounded.log2 < spec.mantissaBits + 1 := by
    have hlt : first.1.mantissa < 2 ^ spec.mantissaBits := mantissa_shiftToTargetExponent_lt m he a
    have hround : rounded ≤ first.1.mantissa + 1 := (roundedMantissa_mem first.1).2
    refine log2_lt_of_lt (Nat.succ_pos _) ?_
    rw [Nat.pow_succ]
    omega
  by_cases hzero : second.1.mantissa = 0
  · have hround : roundWithAccuracy spec s m e a = .zero s := dif_pos hzero
    rw [hround]
    exact .zero s
  · have hround : roundWithAccuracy spec s m e a =
        .finite s second.1.mantissa second.2 (Nat.pos_of_ne_zero hzero) := dif_neg hzero
    rw [hround]
    refine .finite s _ (mantissa_shiftToTargetExponent_lt rounded he₁ .exact)
      (Int.le_trans he₁ (le_shiftToTargetExponent rounded he₁ .exact)) ?_
    rw [hsecond, hfirst]
    omega

/-! ## Packing -/

theorem small_unpack {b : BitVec spec.numBits} {n : Nat} (hb : (unpackExponent b).toNat ≤ n)
    (hn : n + 1 < 2 ^ spec.exponentBits) :
    Small spec (max n 1 - (spec.exponentBias + spec.mantissaBitsWithoutImplicit)) (unpack spec b) := by
  have hbias := minExponent_add_exponentBias spec
  have hspecial : unpackExponent b ≠ -1#_ := by
    intro h
    rw [h, BitVec.neg_one_eq_allOnes, BitVec.toNat_allOnes] at hb
    omega
  unfold unpack
  dsimp only
  rw [if_neg hspecial]
  by_cases hzero : unpackExponent b = 0#_
  · rw [if_pos hzero]
    by_cases hmantissa : unpackMantissa b = 0#_
    · rw [dif_pos hmantissa]
      exact .zero _
    · rw [dif_neg hmantissa]
      refine .finite _ _ ?_ ?_ ?_
      · rw [mantissaBits_eq, Nat.add_comm, Nat.pow_succ]
        have := (unpackMantissa b).isLt
        omega
      · rw [hzero, BitVec.toNat_zero]
        omega
      · rw [hzero, BitVec.toNat_zero]
        omega
  · rw [if_neg hzero]
    have hpos : 0 < (unpackExponent b).toNat := by
      refine Nat.pos_of_ne_zero fun h => hzero ?_
      exact BitVec.eq_of_toNat_eq (h.trans (BitVec.toNat_zero).symm)
    refine .finite _ _ ?_ ?_ ?_
    · exact (1#1 ++ unpackMantissa b).isLt
    · omega
    · omega

theorem Small.unpack_pack {x : UnpackedFloat} (h : Small spec k x) (hmin : spec.minExponent ≤ k)
    (hmax : k + spec.exponentBias + spec.mantissaBitsWithoutImplicit + 1 <
      ((2 ^ spec.exponentBits : Nat) : Int)) :
    Small spec k (unpack spec (pack spec x)) := by
  have hbias := minExponent_add_exponentBias spec
  let n := (k + spec.exponentBias + spec.mantissaBitsWithoutImplicit).toNat
  have hn : (n : Int) = k + spec.exponentBias + spec.mantissaBitsWithoutImplicit :=
    Int.toNat_of_nonneg (by omega)
  have hfits : n + 1 < 2 ^ spec.exponentBits := by omega
  have hexponent : (unpackExponent (pack spec x)).toNat ≤ n := by
    cases h with
    | zero s =>
      rw [show pack spec (.zero s) = packedZero spec s from rfl, packedZero,
        unpackExponent_packComponents]
      exact Nat.zero_le n
    | @finite s m e hm hbits hmin' hmax' =>
      have hroom : ¬2 ^ spec.exponentBits ≤
          (e + spec.exponentBias + spec.mantissaBitsWithoutImplicit).toNat + 1 := by omega
      rw [pack_finite]
      dsimp only
      rw [if_neg hroom]
      split
      · rw [unpackExponent_packComponents, BitVec.toNat_ofNat]
        exact Nat.le_trans (Nat.mod_le ..) (by omega)
      · rw [unpackExponent_packComponents, BitVec.toNat_zero]
        exact Nat.zero_le n
  exact (small_unpack hexponent hfits).mono (by omega)

/-! ## Operations -/

theorem small_ofNat (hspec : spec.minExponent ≤ 0) (n : Nat) :
    Small spec (n.log2 + 2) (ofNat spec n) := by
  by_cases hn : n = 0
  · rw [hn]
    exact .zero .positive
  · rw [ofNat_of_pos (Nat.pos_of_ne_zero hn), UnpackedFloat.round]
    -- The digits that are put behind a short number are as many as the exponent goes down.
    let shift := (0 - spec.targetExponent (totalExponent n 0)).toNat
    have hmin : spec.minExponent ≤ 0 - (shift : Int) := by
      have : spec.minExponent ≤ spec.targetExponent (totalExponent n 0) := Int.le_max_right ..
      omega
    have hlog : (n <<< shift).log2 < n.log2 + 1 + shift := by
      refine log2_lt_of_lt (by omega) ?_
      rw [Nat.shiftLeft_eq, Nat.pow_add]
      exact Nat.mul_lt_mul_of_pos_right Nat.lt_log2_self (Nat.two_pow_pos shift)
    have hround : Small spec (0 - shift + ((n <<< shift).log2 + 1 - spec.mantissaBits : Nat) + 1)
        (roundWithAccuracy spec .positive (n <<< shift) (0 - shift) .exact) :=
      small_roundWithAccuracy .positive hmin .exact
    exact hround.mono (by omega)

theorem small_div {x : UnpackedFloat} (hx : Small spec k x) (s : Sign) {m : Nat} {e : Int}
    (hm : 0 < m) (he : e ≤ 0) : Small spec (k - e + 1) (div spec x (.finite s m e hm)) := by
  cases hx with
  | zero s' => exact .zero _
  | @finite s' m' e' hm' hbits hmin hmax =>
    let target := min (e' - e) (spec.targetExponent (totalExponent m' e' - totalExponent m e))
    let shift := (e' - e - target).toNat
    have hle : spec.minExponent ≤ target := by
      have : spec.minExponent ≤ spec.targetExponent (totalExponent m' e' - totalExponent m e) :=
        Int.le_max_right ..
      omega
    have hlog : (m' <<< shift / m).log2 < spec.mantissaBits + shift := by
      refine log2_lt_of_lt (by rw [mantissaBits_eq]; omega) ?_
      refine Nat.lt_of_le_of_lt (Nat.div_le_self ..) ?_
      rw [Nat.shiftLeft_eq, Nat.pow_add]
      exact Nat.mul_lt_mul_of_pos_right hbits (Nat.two_pow_pos shift)
    have hround : Small spec
        (target + ((m' <<< shift / m).log2 + 1 - spec.mantissaBits : Nat) + 1)
        (div spec (.finite s' m' e' hm') (.finite s m e hm)) :=
      small_roundWithAccuracy (s' / s) hle _
    exact hround.mono (by omega)

theorem mul_zero_eq {x : UnpackedFloat} (hx : Small spec k x) (s : Sign) :
    ∃ s', mul spec (.zero s) x = .zero s' := by
  cases hx with
  | zero s' => exact ⟨_, rfl⟩
  | finite s' hm hbits hmin hmax => exact ⟨_, rfl⟩

/-! ## Single precision -/

theorem small_ofWord (n : UInt32) : Small .binary32 33 (ofWord n : Float32).toModel.unpack := by
  have hlog : n.toNat.log2 < 32 := log2_lt_of_lt (by decide) n.toNat_lt
  have h : Small .binary32 33 (ofNat .binary32 n.toNat) :=
    (small_ofNat (by decide) n.toNat).mono (by omega)
  exact h.unpack_pack (by decide) (by decide)

theorem unpack_ofWord_gainMax : (ofWord gainMax : Float32).toModel.unpack =
    .finite .positive 10240000 (-10) (by decide) := rfl

/-- Zero times a gain is a zero, of one sign or the other. -/
theorem zero_mul_ofWord_div (gain : UInt32) :
    ∃ s, (zero : Float32) * (ofWord gain / ofWord gainMax) = ⟨Float32.Model.pack (.zero s)⟩ := by
  have hquotient : Small .binary32 44 (ofWord gain / ofWord gainMax : Float32).toModel.unpack := by
    have h := small_div (small_ofWord gain) .positive (m := 10240000) (e := -10) (by decide)
      (by decide)
    rw [← unpack_ofWord_gainMax] at h
    exact h.unpack_pack (by decide) (by decide)
  have hzero : (zero : Float32).toModel.unpack = .zero .positive := rfl
  obtain ⟨s, hs⟩ := mul_zero_eq hquotient .positive
  refine ⟨s, congrArg (fun x => Float32.ofModel (Float32.Model.pack x)) ?_⟩
  rw [← hs, ← hzero]

end VirtualPad.Floating
