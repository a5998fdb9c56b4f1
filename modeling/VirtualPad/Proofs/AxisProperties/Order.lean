import Mathlib.Algebra.Group.Nat.Defs
import Mathlib.Algebra.Ring.Int.Defs
import Mathlib.Tactic.SplitIfs
import VirtualPad.AxisProperties

/-!
# Presented values are ordered

Whatever deadzone and saturation are set, and in whatever relation they stand, presenting keeps the
order of the raw values and stays within the range (`apply_order`).

The four cutoffs divide the travel into five stretches. A value goes to an end or to the middle of
the range, or it lies on a slope between two of them. Two values in one stretch are compared on its
slope; two values in different stretches are compared through the bounds of the stretches, because
`top` of the lower one never exceeds `bottom` of the higher one.
-/

namespace VirtualPad.AxisProperties

/-! ## Stretches and slopes -/

/-- The stretches into which the cutoffs divide the travel. -/
inductive Stretch where
  | low | negativeSlope | middle | positiveSlope | high
  deriving DecidableEq, Repr

/-- The place of a stretch, counted from the negative end of the travel. -/
def Stretch.rank : Stretch → Nat
  | .low => 0
  | .negativeSlope => 1
  | .middle => 2
  | .positiveSlope => 3
  | .high => 4

/-- The stretch in which a value lies. No slopes are left where saturation is below the deadzone. -/
def stretch (p : AxisProperties) (value : Int) : Stretch :=
  if value < cutoff axisMin p.saturation then .low
  else if value < cutoff axisMin p.deadzone then .negativeSlope
  else if value ≤ cutoff axisMax p.deadzone then .middle
  else if value ≤ cutoff axisMax p.saturation then .positiveSlope
  else .high

/-- A line that leaves `base` at `start` and has gained `rise` after `span`. -/
structure Slope where
  start : Int
  span : Int
  base : Int
  rise : Int
  deriving DecidableEq, Repr

def Slope.at (s : Slope) (value : Int) : Int :=
  s.base + interpolate (value - s.start) s.rise s.span

/-- The slope of a stretch, if it has one. -/
def slope? (p : AxisProperties) : Stretch → Option Slope
  | .negativeSlope => some {
      start := cutoff axisMin p.saturation
      span := cutoff axisMin p.deadzone - cutoff axisMin p.saturation
      base := p.rangeMin.toInt
      rise := p.neutral - p.rangeMin.toInt }
  | .positiveSlope => some {
      start := cutoff axisMax p.deadzone
      span := cutoff axisMax p.saturation - cutoff axisMax p.deadzone
      base := p.neutral
      rise := p.rangeMax.toInt - p.neutral }
  | _ => none

/-- The least value presented in a stretch. -/
def bottom (p : AxisProperties) : Stretch → Int
  | .low => p.rangeMin.toInt
  | .negativeSlope => p.rangeMin.toInt
  | .middle => p.neutral
  | .positiveSlope => p.neutral
  | .high => p.rangeMax.toInt

/-- The greatest value presented in a stretch. -/
def top (p : AxisProperties) : Stretch → Int
  | .low => p.rangeMin.toInt
  | .negativeSlope => p.neutral
  | .middle => p.neutral
  | .positiveSlope => p.rangeMax.toInt
  | .high => p.rangeMax.toInt

theorem apply_eq {p : AxisProperties} (he : p.enabled = true) (value : Int) :
    p.apply value =
      match p.slope? (p.stretch value) with
      | some s => s.at value
      | none => p.bottom (p.stretch value) := by
  rw [apply, he, if_neg (by decide)]
  dsimp only
  unfold stretch
  split_ifs
  all_goals rfl

/-! ## Where the cutoffs lie -/

theorem cutoff_axisMin_eq (amount : UInt32) :
    cutoff axisMin amount = -(32768 * (min amount.toNat 10000 : Nat) / 10000 : Int) := by
  have hmul : axisMin * (min amount.toNat 10000 : Nat) =
      -(32768 * (min amount.toNat 10000 : Nat) : Int) := Int.neg_mul _ _
  change (axisMin * (min amount.toNat 10000 : Nat)).tdiv 10000 = _
  rw [hmul, Int.neg_tdiv, Int.tdiv_eq_ediv_of_nonneg (by omega)]

theorem cutoff_axisMin (amount : UInt32) :
    axisMin ≤ cutoff axisMin amount ∧ cutoff axisMin amount ≤ 0 := by
  rw [cutoff_axisMin_eq, axisMin]
  omega

theorem cutoff_axisMax (amount : UInt32) :
    0 ≤ cutoff axisMax amount ∧ cutoff axisMax amount ≤ axisMax := by
  have hpos : cutoff axisMax amount = (32767 * (min amount.toNat 10000 : Nat) : Int) / 10000 :=
    Int.tdiv_eq_ediv_of_nonneg (by change (0 : Int) ≤ 32767 * _; omega)
  rw [hpos, axisMax]
  omega

theorem neutral_mem {p : AxisProperties} (hr : p.rangeMin < p.rangeMax) :
    p.rangeMin.toInt ≤ p.neutral ∧ p.neutral ≤ p.rangeMax.toInt := by
  have hlt := Int32.lt_iff_toInt_lt.1 hr
  unfold neutral
  by_cases hsum : 0 ≤ p.rangeMin.toInt + p.rangeMax.toInt
  · rw [Int.tdiv_eq_ediv_of_nonneg hsum]
    omega
  · have hneg : p.rangeMin.toInt + p.rangeMax.toInt =
        -(-(p.rangeMin.toInt + p.rangeMax.toInt)) := (Int.neg_neg _).symm
    rw [hneg, Int.neg_tdiv, Int.tdiv_eq_ediv_of_nonneg (by omega)]
    omega

/-! ## Slopes -/

/-- A value lies on a slope that rises, and the numbers involved are small. -/
structure Slope.Carries (s : Slope) (value : Int) : Prop where
  start_le : s.start ≤ value
  le_end : value ≤ s.start + s.span
  span_pos : 0 < s.span
  span_le : s.span ≤ 32768
  rise_nonneg : 0 ≤ s.rise
  rise_lt : s.rise < 2 ^ 32

theorem carries_of_slope? {p : AxisProperties} (hr : p.rangeMin < p.rangeMax) {value : Int}
    {s : Slope} (hs : p.slope? (p.stretch value) = some s) : s.Carries value := by
  obtain ⟨hlow, hhigh⟩ := neutral_mem hr
  have hmin := p.rangeMin.le_toInt
  have hmax := p.rangeMax.toInt_lt
  have hsn := cutoff_axisMin p.saturation
  have hdn := cutoff_axisMin p.deadzone
  have hdp := cutoff_axisMax p.deadzone
  have hsp := cutoff_axisMax p.saturation
  have hends : axisMin = -32768 ∧ axisMax = 32767 := ⟨rfl, rfl⟩
  unfold stretch at hs
  split at hs
  · cases hs
  · split at hs
    · obtain rfl := Option.some.inj hs
      constructor
      all_goals dsimp only
      all_goals omega
    · split at hs
      · cases hs
      · split at hs
        · obtain rfl := Option.some.inj hs
          constructor
          all_goals dsimp only
          all_goals omega
        · cases hs

theorem Slope.at_mono {s : Slope} {a b : Int} (hspan : 0 < s.span) (hrise : 0 ≤ s.rise)
    (hab : a ≤ b) : s.at a ≤ s.at b := by
  have hmul : (a - s.start) * s.rise ≤ (b - s.start) * s.rise :=
    Int.mul_le_mul_of_nonneg_right (by omega) hrise
  have hround := roundDiv_mono hspan hmul
  unfold Slope.at interpolate
  omega

/-- At its two ends a slope is where it should be, so in between it is in between. -/
theorem Slope.Carries.at_mem {s : Slope} {value : Int} (h : s.Carries value) :
    s.base ≤ s.at value ∧ s.at value ≤ s.base + s.rise := by
  have hstart : s.at s.start = s.base := by
    have hzero : roundDiv 0 s.span = 0 := by simpa using roundDiv_mul_self 0 h.span_pos
    simp [Slope.at, interpolate, hzero]
  have hend : s.at (s.start + s.span) = s.base + s.rise := by
    have hfull : s.start + s.span - s.start = s.span := by omega
    rw [Slope.at, interpolate, hfull, Int.mul_comm, roundDiv_mul_self s.rise h.span_pos]
  have hlow := Slope.at_mono h.span_pos h.rise_nonneg h.start_le
  have hhigh := Slope.at_mono h.span_pos h.rise_nonneg h.le_end
  omega

theorem Slope.Carries.product_lt {s : Slope} {value : Int} (h : s.Carries value) :
    ((value - s.start) * s.rise).natAbs < 2 ^ 53 := by
  have hnonneg : 0 ≤ (value - s.start) * s.rise :=
    Int.mul_nonneg (by have := h.start_le; omega) h.rise_nonneg
  have hle : (value - s.start) * s.rise ≤ 32768 * s.rise := by
    have hend := h.le_end
    have hspan := h.span_le
    exact Int.mul_le_mul_of_nonneg_right (by omega) h.rise_nonneg
  have hrise := h.rise_lt
  omega

/-! ## Order -/

theorem stretch_mono (p : AxisProperties) {a b : Int} (hab : a ≤ b) :
    (p.stretch a).rank ≤ (p.stretch b).rank := by
  have hsn := (cutoff_axisMin p.saturation).2
  have hdn := (cutoff_axisMin p.deadzone).2
  have hdp := (cutoff_axisMax p.deadzone).1
  unfold stretch
  -- for each pair of stretches: their ranks are in order, or a cutoff lies on both sides of a value
  split_ifs
  all_goals simp only [Stretch.rank]
  all_goals omega

theorem top_le_bottom {p : AxisProperties} (hr : p.rangeMin < p.rangeMax) {s t : Stretch}
    (h : s.rank < t.rank) : p.top s ≤ p.bottom t := by
  obtain ⟨hlow, hhigh⟩ := neutral_mem hr
  cases s <;> cases t
  all_goals simp only [Stretch.rank, top, bottom] at h ⊢
  all_goals omega

theorem bottom_top_of_slope? {p : AxisProperties} {t : Stretch} {s : Slope}
    (hs : p.slope? t = some s) : p.bottom t = s.base ∧ p.top t = s.base + s.rise := by
  cases t with
  | negativeSlope =>
    obtain rfl := Option.some.inj hs
    exact ⟨rfl, by simp only [top]; omega⟩
  | positiveSlope =>
    obtain rfl := Option.some.inj hs
    exact ⟨rfl, by simp only [top]; omega⟩
  | low => cases hs
  | middle => cases hs
  | high => cases hs

theorem bottom_eq_top {p : AxisProperties} {t : Stretch} (hs : p.slope? t = none) :
    p.bottom t = p.top t := by
  cases t with
  | negativeSlope => cases hs
  | positiveSlope => cases hs
  | low => rfl
  | middle => rfl
  | high => rfl

theorem apply_mem_stretch {p : AxisProperties} (he : p.enabled = true)
    (hr : p.rangeMin < p.rangeMax) (value : Int) :
    p.bottom (p.stretch value) ≤ p.apply value ∧ p.apply value ≤ p.top (p.stretch value) := by
  rw [apply_eq he]
  cases hs : p.slope? (p.stretch value) with
  | none => exact ⟨Int.le_refl _, Int.le_of_eq (bottom_eq_top hs)⟩
  | some s =>
    obtain ⟨hbottom, htop⟩ := bottom_top_of_slope? hs
    rw [hbottom, htop]
    exact (carries_of_slope? hr hs).at_mem

theorem range_of_stretch {p : AxisProperties} (hr : p.rangeMin < p.rangeMax) (t : Stretch) :
    p.rangeMin.toInt ≤ p.bottom t ∧ p.top t ≤ p.rangeMax.toInt := by
  obtain ⟨hlow, hhigh⟩ := neutral_mem hr
  cases t
  all_goals simp only [top, bottom]
  all_goals omega

theorem apply_mono {p : AxisProperties} (he : p.enabled = true) (hr : p.rangeMin < p.rangeMax)
    {a b : Int} (hab : a ≤ b) : p.apply a ≤ p.apply b := by
  have hrank := p.stretch_mono hab
  by_cases hlt : (p.stretch a).rank < (p.stretch b).rank
  · have ha := (apply_mem_stretch he hr a).2
    have hb := (apply_mem_stretch he hr b).1
    have hbetween := top_le_bottom hr hlt
    omega
  · have hsame : p.stretch a = p.stretch b := by
      have heq : (p.stretch a).rank = (p.stretch b).rank := by omega
      revert heq
      cases p.stretch a <;> cases p.stretch b <;> simp [Stretch.rank]
    rw [apply_eq he a, apply_eq he b, hsame]
    cases hs : p.slope? (p.stretch b) with
    | none => exact Int.le_refl _
    | some s =>
      have hcarries := carries_of_slope? hr hs
      exact Slope.at_mono hcarries.span_pos hcarries.rise_nonneg hab

theorem cutoff_product_lt {travelEnd : Int} (he : travelEnd = axisMin ∨ travelEnd = axisMax)
    {amount : UInt32} (ha : amount ≤ axisPropertyMax) :
    (travelEnd * amount.toNat).natAbs < 2 ^ 53 := by
  have hle : amount.toNat ≤ 10000 := UInt32.le_iff_toNat_le.1 ha
  rcases he with rfl | rfl
  · rw [axisMin]
    omega
  · rw [axisMax]
    omega

/-- Presenting keeps the order of the raw values and stays within the range. On the way nothing is
divided by a span of zero, and no product leaves the integers that floating point keeps exact. -/
theorem apply_order (p : AxisProperties) (he : p.enabled = true)
    (hd : p.deadzone ≤ axisPropertyMax) (hs : p.saturation ≤ axisPropertyMax)
    (hr : p.rangeMin < p.rangeMax) (a b : Int) (hab : a ≤ b) :
    p.rangeMin.toInt ≤ p.apply a ∧ p.apply a ≤ p.apply b ∧ p.apply b ≤ p.rangeMax.toInt ∧
    (∀ value, p.apply value =
      match p.slope? (p.stretch value) with
      | some s => s.base + roundDiv ((value - s.start) * s.rise) s.span
      | none => p.bottom (p.stretch value)) ∧
    (∀ value s, p.slope? (p.stretch value) = some s →
      s.span ≠ 0 ∧ ((value - s.start) * s.rise).natAbs < 2 ^ 53) ∧
    ∀ travelEnd ∈ [axisMin, axisMax], ∀ amount ∈ [p.deadzone, p.saturation],
      (travelEnd * amount.toNat).natAbs < 2 ^ 53 := by
  refine ⟨?_, apply_mono he hr hab, ?_, apply_eq he, ?_, ?_⟩
  · exact Int.le_trans (range_of_stretch hr _).1 (apply_mem_stretch he hr a).1
  · exact Int.le_trans (apply_mem_stretch he hr b).2 (range_of_stretch hr _).2
  · intro value s hslope
    have hcarries := carries_of_slope? hr hslope
    exact ⟨Int.ne_of_gt hcarries.span_pos, hcarries.product_lt⟩
  · intro travelEnd hend amount hamount
    have hle : amount ≤ axisPropertyMax := by
      rcases List.mem_cons.1 hamount with rfl | hamount
      · exact hd
      · rw [List.mem_singleton.1 hamount]
        exact hs
    exact cutoff_product_lt (by simpa using hend) hle

/-- A deadzone beyond saturation: the negative side is cut off where the positive side is still at
rest, and the order is kept. -/
theorem apply_order_crossed :
    let p : AxisProperties :=
      { deadzone := 8000, saturation := 2000, rangeMin := -2147483648, rangeMax := 2147483647 }
    p.enabled = true ∧ p.deadzone ≤ axisPropertyMax ∧ p.saturation ≤ axisPropertyMax ∧
    p.rangeMin < p.rangeMax ∧ (-20000 : Int) ≤ 20000 ∧
    p.rangeMin.toInt ≤ p.apply (-20000) ∧ p.apply (-20000) ≤ p.apply 20000 ∧
    p.apply 20000 ≤ p.rangeMax.toInt := by
  intro p
  obtain ⟨hlow, hmono, hhigh, -⟩ := apply_order p rfl (by decide) (by decide) (by decide)
    (-20000) 20000 (by decide)
  exact ⟨rfl, by decide, by decide, by decide, by decide, hlow, hmono, hhigh⟩

end VirtualPad.AxisProperties
