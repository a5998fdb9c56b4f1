import Mathlib.Algebra.Group.Nat.Defs
import VirtualPad.Force.Waveform

/-!
# Words as numbers

A word other than zero becomes a number other than zero, in either precision: rounding it may drop
its last digits, but not the first one.
-/

namespace VirtualPad

open Scalar

/-- Scalars that can be divided by every word but zero, and by the parts of a turn. -/
class Divisors (α : Type) [Scalar α] : Prop where
  ofWord {n : UInt32} : n ≠ 0 → eq (ofWord n : α) zero = false
  halfTurn : eq (fullTurn / Scalar.ofWord 2 : α) zero = false
  quarterTurn : eq (fullTurn / Scalar.ofWord 4 : α) zero = false

namespace Floating

open Float.Model (Format UnpackedFloat totalExponent)
open Float.Model.UnpackedFloat

variable {spec : Format}

/-! ## Rounding keeps the first digit -/

theorem mantissa_shiftRight (em : ExtendedMantissa) (k : Nat) :
    (em >>> k).mantissa = em.mantissa / 2 ^ k := by
  induction k with
  | zero => exact (Nat.div_one _).symm
  | succ k ih =>
    show (em >>> k).mantissa / 2 = _
    rw [ih, Nat.div_div_eq_div_mul, Nat.pow_succ]

theorem roundedMantissa_mem (em : ExtendedMantissa) :
    em.mantissa ≤ em.roundedMantissa ∧ em.roundedMantissa ≤ em.mantissa + 1 := by
  obtain ⟨m, roundBit, stickyBit⟩ := em
  cases roundBit <;> cases stickyBit
  all_goals
    simp only [ExtendedMantissa.roundedMantissa, ExtendedMantissa.accuracy,
      Accuracy.roundToNearestEven]
    omega

theorem mantissaBits_eq (spec : Format) :
    spec.mantissaBits = 1 + spec.mantissaBitsWithoutImplicit := rfl

theorem mantissa_ofMantissaAndAccuracy (m : Nat) (a : Accuracy) :
    (ExtendedMantissa.ofMantissaAndAccuracy m a).mantissa = m := by
  cases a with
  | exact => rfl
  | inexact o => cases o <;> rfl

/-- A shift to the target drops as many digits as there are too many. -/
theorem shiftToTargetExponent_eq (m : Nat) {e : Int} (he : spec.minExponent ≤ e) (a : Accuracy) :
    (shiftToTargetExponent spec m e a).1.mantissa = m / 2 ^ (m.log2 + 1 - spec.mantissaBits) ∧
      (shiftToTargetExponent spec m e a).2 = e + (m.log2 + 1 - spec.mantissaBits : Nat) := by
  have hbits : 0 < spec.mantissaBits := by
    rw [mantissaBits_eq]
    omega
  have hshift : (spec.targetExponent (totalExponent m e) - e).toNat =
      m.log2 + 1 - spec.mantissaBits := by
    rw [Format.targetExponent, totalExponent]
    omega
  rw [shiftToTargetExponent, shiftToExponent]
  simp only [hshift, mantissa_shiftRight, mantissa_ofMantissaAndAccuracy, and_self]

theorem mantissa_shiftToTargetExponent_lt (m : Nat) {e : Int} (he : spec.minExponent ≤ e)
    (a : Accuracy) :
    (shiftToTargetExponent spec m e a).1.mantissa < 2 ^ spec.mantissaBits := by
  rw [(shiftToTargetExponent_eq m he a).1]
  refine Nat.div_lt_of_lt_mul ?_
  rw [← Nat.pow_add]
  have hle : m.log2 + 1 ≤ m.log2 + 1 - spec.mantissaBits + spec.mantissaBits := by omega
  exact Nat.lt_of_lt_of_le Nat.lt_log2_self (Nat.pow_le_pow_right Nat.zero_lt_two hle)

theorem mantissa_shiftToTargetExponent_pos {m : Nat} (hm : 0 < m) {e : Int}
    (he : spec.minExponent ≤ e) (a : Accuracy) :
    0 < (shiftToTargetExponent spec m e a).1.mantissa := by
  have hbits : 0 < spec.mantissaBits := by
    rw [mantissaBits_eq]
    omega
  rw [(shiftToTargetExponent_eq m he a).1]
  refine Nat.div_pos ?_ (Nat.two_pow_pos _)
  have hle : m.log2 + 1 - spec.mantissaBits ≤ m.log2 := by omega
  exact Nat.le_trans (Nat.pow_le_pow_right Nat.zero_lt_two hle) (Nat.log2_self_le (Nat.ne_of_gt hm))

theorem le_shiftToTargetExponent (m : Nat) {e : Int} (he : spec.minExponent ≤ e) (a : Accuracy) :
    e ≤ (shiftToTargetExponent spec m e a).2 := by
  rw [(shiftToTargetExponent_eq m he a).2]
  omega

theorem roundWithAccuracy_eq_finite (sign : Sign) {m : Nat} (hm : 0 < m) {e : Int}
    (he : spec.minExponent ≤ e) :
    ∃ m' e' h, roundWithAccuracy spec sign m e .exact = .finite sign m' e' h ∧
      m' < 2 ^ spec.mantissaBits ∧ spec.minExponent ≤ e' := by
  let first := shiftToTargetExponent spec m e .exact
  let rounded := first.1.roundedMantissa
  have he₁ : spec.minExponent ≤ first.2 := Int.le_trans he (le_shiftToTargetExponent m he .exact)
  have hrounded : 0 < rounded :=
    Nat.lt_of_lt_of_le (mantissa_shiftToTargetExponent_pos hm he .exact)
      (roundedMantissa_mem first.1).1
  have hpos := mantissa_shiftToTargetExponent_pos hrounded he₁ .exact
  refine ⟨_, _, hpos, ?_, mantissa_shiftToTargetExponent_lt rounded he₁ .exact,
    Int.le_trans he₁ (le_shiftToTargetExponent rounded he₁ .exact)⟩
  rw [roundWithAccuracy]
  exact dif_neg (Nat.ne_of_gt hpos)

theorem round_eq_finite (hspec : spec.minExponent ≤ 0) (sign : Sign) {m : Nat} (hm : 0 < m) :
    ∃ m' e h, round spec sign m 0 = .finite sign m' e h ∧ m' < 2 ^ spec.mantissaBits ∧
      spec.minExponent ≤ e := by
  rw [UnpackedFloat.round]
  refine roundWithAccuracy_eq_finite sign ?_ ?_
  · show 0 < m <<< _
    rw [Nat.shiftLeft_eq]
    exact Nat.mul_pos hm (Nat.two_pow_pos _)
  · show spec.minExponent ≤ 0 - _
    rw [Format.targetExponent]
    omega

/-! ## Packing keeps it too -/

theorem unpack_ne_zero {b : BitVec spec.numBits}
    (h : unpackExponent b ≠ 0#_ ∨ unpackMantissa b ≠ 0#_) (sign : Sign) :
    unpack spec b ≠ .zero sign := by
  unfold unpack
  dsimp only
  by_cases hspecial : unpackExponent b = -1#_
  · rw [if_pos hspecial]
    by_cases hmantissa : unpackMantissa b = 0#_
    · rw [if_pos hmantissa]
      intro hzero
      cases hzero
    · rw [if_neg hmantissa]
      intro hzero
      cases hzero
  · rw [if_neg hspecial]
    by_cases hexponent : unpackExponent b = 0#_
    · rw [if_pos hexponent, dif_neg (h.resolve_left fun hne => hne hexponent)]
      intro hzero
      cases hzero
    · rw [if_neg hexponent]
      intro hzero
      cases hzero

theorem ofNat_ne_zero {w n : Nat} (hn : 0 < n) (hlt : n < 2 ^ w) : BitVec.ofNat w n ≠ 0#w := by
  intro h
  have := congrArg BitVec.toNat h
  rw [BitVec.toNat_ofNat, Nat.mod_eq_of_lt hlt, BitVec.toNat_zero] at this
  omega

theorem minExponent_add_exponentBias (spec : Format) :
    spec.minExponent + spec.exponentBias + spec.mantissaBitsWithoutImplicit = 1 := by
  have hpow : 1 ≤ 2 ^ (spec.exponentBits - 1) := Nat.one_le_two_pow
  have hcast : (2 : Int) ^ (spec.exponentBits - 1) = (2 ^ (spec.exponentBits - 1) : Nat) :=
    (Int.natCast_pow ..).symm
  rw [Format.minExponent, Format.exponentBias, mantissaBits_eq, hcast]
  omega

theorem pack_finite (sign : Sign) {m : Nat} {e : Int} (hm : 0 < m) :
    pack spec (.finite sign m e hm) =
      let biased := (e + spec.exponentBias + spec.mantissaBitsWithoutImplicit).toNat
      if 2 ^ spec.exponentBits ≤ biased + 1 then packedInfinity spec sign
      else if m.log2 + 1 = spec.mantissaBits then
        packComponents spec sign (BitVec.ofNat _ biased) (BitVec.ofNat _ m)
      else packComponents spec sign 0#_ (BitVec.ofNat _ m) := rfl

theorem unpack_pack_finite_ne_zero (hspec : 2 ≤ spec.exponentBits) (sign sign' : Sign) {m : Nat}
    {e : Int} (hm : 0 < m) (hlt : m < 2 ^ spec.mantissaBits) (he : spec.minExponent ≤ e) :
    unpack spec (pack spec (.finite sign m e hm)) ≠ .zero sign' := by
  have hpow : 2 ^ 2 ≤ 2 ^ spec.exponentBits := Nat.pow_le_pow_right Nat.zero_lt_two hspec
  have hbias := minExponent_add_exponentBias spec
  refine unpack_ne_zero ?_ sign'
  rw [pack_finite]
  dsimp only
  split
  · left
    rw [packedInfinity, unpackExponent_packComponents, BitVec.neg_one_eq_allOnes]
    intro hzero
    have := congrArg BitVec.toNat hzero
    rw [BitVec.toNat_allOnes, BitVec.toNat_zero] at this
    omega
  · rename_i hfinite
    split
    · left
      rw [unpackExponent_packComponents]
      refine ofNat_ne_zero ?_ (by omega)
      omega
    · rename_i hbits
      right
      rw [unpackMantissa_packComponents]
      refine ofNat_ne_zero hm ?_
      rw [mantissaBits_eq] at hlt hbits
      have hlog : m.log2 < 1 + spec.mantissaBitsWithoutImplicit :=
        (Nat.log2_lt (Nat.ne_of_gt hm)).mpr hlt
      exact (Nat.log2_lt (Nat.ne_of_gt hm)).mp (by omega)

theorem ofNat_of_pos {n : Nat} (hn : 0 < n) : ofNat spec n = round spec .positive n 0 := by
  unfold ofNat ofInt UnpackedFloat.normalize
  have hcompare : compare (n : Int) 0 = .gt := Int.compare_eq_gt.mpr (by omega)
  rw [hcompare]
  rfl

theorem unpack_ofNat_ne_zero (hspec : 2 ≤ spec.exponentBits) {n : Nat} (hn : 0 < n) (sign : Sign) :
    unpack spec (pack spec (ofNat spec n)) ≠ .zero sign := by
  have hnonpos : spec.minExponent ≤ 0 := by
    have hbias := minExponent_add_exponentBias spec
    have hdigits := spec.hm
    omega
  obtain ⟨m, e, hm, heq, hlt, he⟩ := round_eq_finite hnonpos .positive hn
  rw [ofNat_of_pos hn, heq]
  exact unpack_pack_finite_ne_zero hspec .positive sign hm hlt he

/-! ## Both precisions -/

theorem compare_zero_ne {x : UnpackedFloat} (hx : ∀ sign, x ≠ .zero sign) (sign : Sign) :
    x.compare (.zero sign) ≠ some .eq := by
  cases x with
  | notANumber =>
    intro h
    cases h
  | infinity s =>
    cases s
    all_goals
      intro h
      cases h
  | zero s => exact absurd rfl (hx s)
  | finite s m e hm =>
    cases s
    all_goals
      intro h
      cases h

theorem compare_ofNat_ne (spec : Format) (hspec : 2 ≤ spec.exponentBits) {n : Nat} (hn : 0 < n)
    (sign : Sign) :
    ((unpack spec (pack spec (ofNat spec n))).compare (.zero sign) == some .eq) = false := by
  rw [beq_eq_false_iff_ne]
  exact compare_zero_ne (unpack_ofNat_ne_zero hspec hn) sign

instance : Divisors Float32 where
  ofWord hn := compare_ofNat_ne .binary32 (by decide) (UInt32.pos_iff_ne_zero.mpr hn) .positive
  halfTurn := by decide +kernel
  quarterTurn := by decide +kernel

instance : Divisors Float where
  ofWord hn := compare_ofNat_ne .binary64 (by decide) (UInt32.pos_iff_ne_zero.mpr hn) .positive
  halfTurn := by decide +kernel
  quarterTurn := by decide +kernel

end Floating

end VirtualPad
