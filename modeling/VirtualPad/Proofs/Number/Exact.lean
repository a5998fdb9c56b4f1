import Mathlib.Analysis.SpecialFunctions.Complex.Arg
import VirtualPad.Number.Rounding
import VirtualPad.Proofs.Number.Rounded

/-!
# Exact arithmetic

Scalars that stand for real numbers and are computed with as these are (`ExactScalar`), and the real
numbers themselves as scalars. Every law of rounded arithmetic holds of these, since nothing is
rounded. Quotients of integers that the program rounds are rounded exact quotients
(`roundDiv_eq_nearest`).
-/

namespace VirtualPad

/-- Scalars that stand for real numbers, with the arithmetic and the order of these. Nothing is said
of functions without exact values, such as the sine, or of rounding. -/
class ExactScalar (α : Type) [Scalar α] where
  value : α → ℝ
  value_ofWord (n : UInt32) : value (Scalar.ofWord n) = n.toNat
  value_add (a b : α) : value (a + b) = value a + value b
  value_sub (a b : α) : value (a - b) = value a - value b
  value_mul (a b : α) : value (a * b) = value a * value b
  value_div (a b : α) : value b ≠ 0 → value (a / b) = value a / value b
  value_neg (a : α) : value (-a) = -value a
  lt_iff (a b : α) : Scalar.lt a b = true ↔ value a < value b
  le_iff (a b : α) : Scalar.le a b = true ↔ value a ≤ value b

/-- A real number, as a scalar. -/
structure Exact where
  value : ℝ

noncomputable section

/-- The nearest integer, halves away from zero. -/
def nearest (a : ℝ) : ℤ := if 0 ≤ a then round a else -round (-a)

instance : Scalar Exact where
  add a b := ⟨a.value + b.value⟩
  sub a b := ⟨a.value - b.value⟩
  mul a b := ⟨a.value * b.value⟩
  div a b := ⟨a.value / b.value⟩
  neg a := ⟨-a.value⟩
  ofWord n := ⟨n.toNat⟩
  lt a b := a.value < b.value
  le a b := a.value ≤ b.value
  eq a b := a.value = b.value
  hasMinus a := a.value < 0
  floor a := ⟨⌊a.value⌋⟩
  round a := ⟨nearest a.value⟩
  sqrt a := ⟨√a.value⟩
  sin a := ⟨Real.sin a.value⟩
  cos a := ⟨Real.cos a.value⟩
  atan2 y x := ⟨Complex.arg ⟨x.value, y.value⟩⟩
  degree := ⟨Real.pi / (180 : ℕ)⟩
  radian := ⟨(180 : ℕ) / Real.pi⟩
  toMotor a := UInt16.ofNat (min 65535 (nearest a.value).toNat)

instance : Precision Exact Exact := ⟨id, id⟩

instance : ExactScalar Exact where
  value := Exact.value
  value_ofWord _ := rfl
  value_add _ _ := rfl
  value_sub _ _ := rfl
  value_mul _ _ := rfl
  value_div _ _ _ := rfl
  value_neg _ := rfl
  lt_iff _ _ := decide_eq_true_iff
  le_iff _ _ := decide_eq_true_iff

instance : RealValued Exact where
  value? a := some a.value
  HasPower _ := True

/-! ## Nearest integers -/

theorem abs_sub_nearest (a : ℝ) : |a - nearest a| ≤ 1 / 2 := by
  unfold nearest
  split
  · exact abs_sub_round a
  · have h := abs_sub_round (-a)
    rwa [← abs_neg, neg_sub, sub_neg_eq_add, add_comm, ← sub_neg_eq_add, ← Int.cast_neg] at h

theorem nearest_intCast (n : ℤ) : nearest n = n := by
  unfold nearest
  split
  · exact round_intCast n
  · rw [← Int.cast_neg, round_intCast, neg_neg]

theorem nearest_mono {a b : ℝ} (hab : a ≤ b) : nearest a ≤ nearest b := by
  have hround {x y : ℝ} (hxy : x ≤ y) : round x ≤ round y := by
    rw [round_eq, round_eq]
    exact Int.floor_mono (by linarith)
  have hnonneg {x : ℝ} (hx : 0 ≤ x) : 0 ≤ round x := by simpa using hround hx
  unfold nearest
  split_ifs with ha hb hb
  · exact hround hab
  · exact absurd (ha.trans hab) hb
  · have := hnonneg (neg_nonneg.mpr (not_le.mp ha).le)
    have := hnonneg hb
    omega
  · exact neg_le_neg (hround (neg_le_neg hab))

theorem nearest_add_intCast {a : ℝ} (ha : 0 ≤ a) {n : ℤ} (hn : 0 ≤ n) :
    nearest (a + n) = nearest a + n := by
  have hsum : 0 ≤ a + n := add_nonneg ha (Int.cast_nonneg hn)
  rw [nearest, nearest, if_pos hsum, if_pos ha, round_add_intCast]

theorem nearest_add_half (n : ℕ) : nearest (n + 1 / 2) = n + 1 := by
  have hnonneg : (0 : ℝ) ≤ n + 1 / 2 := by positivity
  rw [nearest, if_pos hnonneg, round_eq, add_assoc, add_halves]
  exact_mod_cast Int.floor_natCast (R := ℝ) (n + 1)

theorem round_intCast_div {den : ℤ} (hden : 0 < den) (num : ℤ) :
    round ((num : ℝ) / den) = (2 * num + den) / (2 * den) := by
  have hpos : (0 : ℝ) < den := by exact_mod_cast hden
  have hhalf : (num : ℝ) / den + 1 / 2 = ((2 * num + den : ℤ) : ℝ) / ((2 * den : ℤ) : ℝ) := by
    push_cast
    field_simp
  rw [round_eq, hhalf, Int.floor_div_cast_of_nonneg (by omega), Int.floor_intCast]

/-- The quotients of the program are the exact ones, rounded once. -/
theorem roundDiv_eq_nearest (num : ℤ) {den : ℤ} (hden : 0 < den) :
    roundDiv num den = nearest ((num : ℝ) / den) := by
  have hpos : (0 : ℝ) < den := by exact_mod_cast hden
  have hsign : 0 ≤ (num : ℝ) / den ↔ 0 ≤ num := by
    rw [le_div_iff₀ hpos, zero_mul]
    exact Int.cast_nonneg_iff
  unfold roundDiv nearest
  by_cases hnum : 0 ≤ num
  · rw [if_pos hnum, if_pos (hsign.mpr hnum), round_intCast_div hden]
  · rw [if_neg hnum, if_neg (hsign.not.mpr hnum), ← neg_div, ← Int.cast_neg,
      round_intCast_div hden]

theorem roundDiv_le_roundDiv {a b d e : ℤ} (hd : 0 < d) (he : 0 < e) (h : a * e ≤ b * d) :
    roundDiv a d ≤ roundDiv b e := by
  rw [roundDiv_eq_nearest a hd, roundDiv_eq_nearest b he]
  refine nearest_mono ?_
  rw [div_le_div_iff₀ (by exact_mod_cast hd) (by exact_mod_cast he)]
  exact_mod_cast h

/-! ## Laws -/

theorem Exact.rounds (a : Exact) : Rounds a.value a :=
  fun _ _ hle => ⟨a.value, rfl, hle, ⟨fun h => h, fun h => h⟩, fun _ _ h => h⟩

theorem half_le_abs_sin_or_cos (a : ℝ) : 1 / 2 ≤ |Real.sin a| ∨ 1 / 2 ≤ |Real.cos a| := by
  by_contra h
  push Not at h
  have hsum := Real.sin_sq_add_cos_sq a
  rw [← sq_abs (Real.sin a), ← sq_abs (Real.cos a)] at hsum
  nlinarith [abs_nonneg (Real.sin a), abs_nonneg (Real.cos a)]

instance : LawfulScalar Exact where
  le_self _ := decide_eq_true le_rfl
  le_or_lt {a b} _ _ := by
    rcases le_or_gt a.value b.value with h | h
    · exact .inl (decide_eq_true h)
    · exact .inr (decide_eq_true h)
  isNaN_of_le _ := by
    constructor
    · exact Bool.not_eq_false' .. |>.mpr (decide_eq_true rfl)
    · exact Bool.not_eq_false' .. |>.mpr (decide_eq_true rfl)
  hasPower _ := trivial
  le_iff hx hy := by
    obtain rfl := Option.some.inj hx
    obtain rfl := Option.some.inj hy
    exact decide_eq_true_iff
  eq_iff hx hy := by
    obtain rfl := Option.some.inj hx
    obtain rfl := Option.some.inj hy
    exact decide_eq_true_iff
  finite_of_le _ _ _ _ := rfl
  isNaN_add _ _ := Bool.not_eq_false' .. |>.mpr (decide_eq_true rfl)
  ofWord n := Exact.rounds _
  neg hx := by
    obtain rfl := Option.some.inj hx
    rfl
  add hx hy := by
    obtain rfl := Option.some.inj hx
    obtain rfl := Option.some.inj hy
    exact Exact.rounds _
  sub hx hy := by
    obtain rfl := Option.some.inj hx
    obtain rfl := Option.some.inj hy
    exact Exact.rounds _
  mul hx hy := by
    obtain rfl := Option.some.inj hx
    obtain rfl := Option.some.inj hy
    exact Exact.rounds _
  div hx hy _ := by
    obtain rfl := Option.some.inj hx
    obtain rfl := Option.some.inj hy
    exact Exact.rounds _
  floor hx := by
    obtain rfl := Option.some.inj hx
    exact Exact.rounds _
  round {x a} hx := by
    obtain rfl := Option.some.inj hx
    exact ⟨nearest x.value, abs_sub_nearest _, Exact.rounds _⟩
  sqrt hx _ := by
    obtain rfl := Option.some.inj hx
    exact Exact.rounds _
  sin_cos {x a} hx := by
    obtain rfl := Option.some.inj hx
    exact ⟨_, _, rfl, rfl, Real.abs_sin_le_one _, Real.abs_cos_le_one _, half_le_abs_sin_or_cos _⟩
  degree := by
    refine ⟨Real.pi / (180 : ℕ), rfl, ?_⟩
    rw [abs_of_nonneg (by positivity), div_le_one (by norm_num), Nat.cast_ofNat]
    linarith [Real.pi_le_four]

instance : LawfulPrecision Exact Exact where
  widen h := h
  narrow h := by
    obtain rfl := Option.some.inj h
    exact Exact.rounds _
  hasPower _ _ _ _ := ⟨trivial, trivial⟩

end

end VirtualPad
