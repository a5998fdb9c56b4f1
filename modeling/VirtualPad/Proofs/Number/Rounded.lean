import Mathlib.Algebra.Order.Floor.Ring
import Mathlib.Analysis.Real.Sqrt
import Mathlib.Tactic.Linarith
import VirtualPad.Proofs.Number.Ordered

/-!
# Rounded arithmetic

What a bound on forces may rely on in finite precision. A finite value stands for a real number,
and an operation on finite values rounds the exact result. How it rounds is left open: a rounded
result is finite and does not cross a power of two that is itself a value. Every rounding to a
nearest value or toward zero is like this, with or without underflow, and so is exact arithmetic.

From these laws come bounds by powers of two: `Bounded k x` for a finite value of at most `2 ^ k`,
and `Above k x` for one of at least that, both apart from the sign.
-/

namespace VirtualPad

open Scalar Precision

/-- Numbers whose finite values stand for real numbers. -/
class RealValued (α : Type) where
  /-- The real number that a finite value stands for. -/
  value? : α → Option ℝ
  /-- Two to this power is a value. -/
  HasPower : ℤ → Prop

open RealValued

section

variable {α : Type} [RealValued α]

/-- A value is a real number, rounded: as long as that does not exceed all powers of two, the value
is finite, and it is not on the other side of zero or of any power. -/
def Rounds (r : ℝ) (x : α) : Prop :=
  ∀ k, HasPower α k → |r| ≤ 2 ^ k →
    ∃ s, value? x = some s ∧ |s| ≤ 2 ^ k ∧ ((0 ≤ r → 0 ≤ s) ∧ (r ≤ 0 → s ≤ 0)) ∧
      ∀ j, HasPower α j → 2 ^ j ≤ |r| → 2 ^ j ≤ |s|

/-- A finite value of at most a power of two. -/
def Bounded (k : ℤ) (x : α) : Prop := ∃ s, value? x = some s ∧ |s| ≤ 2 ^ k

/-- A finite value of at least a power of two. -/
def Above (k : ℤ) (x : α) : Prop := ∃ s, value? x = some s ∧ 2 ^ k ≤ |s|

end

/-- The laws of rounded arithmetic. Sine and cosine need not be exact, but at every angle one of the
two is at least one half. -/
class LawfulScalar (α : Type) [Scalar α] [RealValued α] : Prop extends OrderedScalar α where
  hasPower {k : ℤ} : -100 ≤ k ∧ k ≤ 100 → HasPower α k
  le_iff {x y : α} {a b : ℝ} : value? x = some a → value? y = some b → (le x y = true ↔ a ≤ b)
  eq_iff {x y : α} {a b : ℝ} : value? x = some a → value? y = some b → (eq x y = true ↔ a = b)
  /-- What lies between finite values is finite. -/
  finite_of_le {x y z : α} : le x y = true → le y z = true → (value? x).isSome = true →
    (value? z).isSome = true → (value? y).isSome = true
  /-- A number and a finite value make a number, be it an infinite one. -/
  isNaN_add {x y : α} : isNaN x = false → (value? y).isSome = true → isNaN (x + y) = false
  ofWord (n : UInt32) : Rounds n.toNat (ofWord n : α)
  neg {x : α} {a : ℝ} : value? x = some a → value? (-x) = some (-a)
  add {x y : α} {a b : ℝ} : value? x = some a → value? y = some b → Rounds (a + b) (x + y)
  sub {x y : α} {a b : ℝ} : value? x = some a → value? y = some b → Rounds (a - b) (x - y)
  mul {x y : α} {a b : ℝ} : value? x = some a → value? y = some b → Rounds (a * b) (x * y)
  div {x y : α} {a b : ℝ} : value? x = some a → value? y = some b → b ≠ 0 →
    Rounds (a / b) (x / y)
  floor {x : α} {a : ℝ} : value? x = some a → Rounds ⌊a⌋ (floor x)
  round {x : α} {a : ℝ} : value? x = some a → ∃ n : ℤ, |a - n| ≤ 1 / 2 ∧ Rounds n (round x)
  sqrt {x : α} {a : ℝ} : value? x = some a → 0 ≤ a → Rounds √a (sqrt x)
  sin_cos {x : α} {a : ℝ} : value? x = some a →
    ∃ s c, value? (sin x) = some s ∧ value? (cos x) = some c ∧ |s| ≤ 1 ∧ |c| ≤ 1 ∧
      (1 / 2 ≤ |s| ∨ 1 / 2 ≤ |c|)
  degree : ∃ d, value? (degree : α) = some d ∧ |d| ≤ 1

/-- A wider type has the values of the narrower one, and enough powers to hold their squares and
their products with moderate numbers. -/
class LawfulPrecision (V W : Type) [Scalar V] [Scalar W] [Precision V W] [RealValued V]
    [RealValued W] : Prop where
  widen {x : V} {a : ℝ} : value? x = some a → value? (widen x : W) = some a
  narrow {y : W} {b : ℝ} : value? y = some b → Rounds b (narrow y : V)
  hasPower {x : V} {a : ℝ} {k i : ℤ} : value? x = some a → 2 ^ k ≤ |a| → |a| < 2 ^ (k + 1) →
    0 ≤ i ∧ i ≤ 100 → HasPower W (k + i) ∧ HasPower W (2 * k + i)

open LawfulScalar (hasPower)

section

variable {α : Type} [Scalar α] [RealValued α] [LawfulScalar α] {x y low high : α} {j k m : ℤ}

theorem two_zpow_le {j k : ℤ} (h : j ≤ k) : (2 : ℝ) ^ j ≤ 2 ^ k :=
  zpow_le_zpow_right₀ one_le_two h

section

omit [Scalar α] [LawfulScalar α]

theorem Bounded.mono (h : Bounded j x) (hjk : j ≤ k) : Bounded k x := by
  obtain ⟨s, hs, hle⟩ := h
  exact ⟨s, hs, hle.trans (two_zpow_le hjk)⟩

theorem Above.mono (h : Above k x) (hjk : j ≤ k) : Above j x := by
  obtain ⟨s, hs, hge⟩ := h
  exact ⟨s, hs, (two_zpow_le hjk).trans hge⟩

theorem Bounded.isSome (h : Bounded k x) : (value? x).isSome = true := by
  obtain ⟨s, hs, -⟩ := h
  rw [hs]
  rfl

theorem Rounds.bounded {r : ℝ} (h : Rounds r x) (hk : HasPower α k) (hr : |r| ≤ 2 ^ k) :
    Bounded k x := by
  obtain ⟨s, hs, hle, -⟩ := h k hk hr
  exact ⟨s, hs, hle⟩

theorem Rounds.above {r : ℝ} (h : Rounds r x) (hk : HasPower α k) (hr : |r| ≤ 2 ^ k)
    (hj : HasPower α j) (hr' : 2 ^ j ≤ |r|) : Above j x := by
  obtain ⟨s, hs, -, -, hge⟩ := h k hk hr
  exact ⟨s, hs, hge j hj hr'⟩

end

/-! ## Bounds of results -/

theorem isNaN_of_isSome (h : (value? x).isSome = true) : isNaN x = false := by
  obtain ⟨s, hs⟩ := Option.isSome_iff_exists.mp h
  rw [isNaN, (LawfulScalar.eq_iff hs hs).mpr rfl]
  rfl

theorem bounded_ofWord {n : UInt32} (hk : 0 ≤ k ∧ k ≤ 100) (h : n.toNat ≤ 2 ^ k.toNat) :
    Bounded k (ofWord n : α) := by
  obtain ⟨i, rfl⟩ := Int.eq_ofNat_of_zero_le hk.1
  refine (LawfulScalar.ofWord n).bounded (hasPower (by omega)) ?_
  rw [abs_of_nonneg (Nat.cast_nonneg _), zpow_natCast]
  exact_mod_cast h

theorem bounded_word (n : UInt32) : Bounded 32 (ofWord n : α) := by
  refine bounded_ofWord (by decide) ?_
  have := n.toNat_lt
  exact this.le

theorem above_ofWord {n : UInt32} (hk : 0 ≤ k ∧ k ≤ 100) (h : 2 ^ k.toNat ≤ n.toNat) :
    Above k (ofWord n : α) := by
  obtain ⟨i, rfl⟩ := Int.eq_ofNat_of_zero_le hk.1
  have hlt : (n.toNat : ℝ) ≤ 2 ^ (32 : ℤ) := by
    have := n.toNat_lt.le
    exact_mod_cast this
  refine (LawfulScalar.ofWord n).above (hasPower (k := 32) (by decide)) ?_
    (hasPower (by omega)) ?_
  · rwa [abs_of_nonneg (Nat.cast_nonneg _)]
  · rw [abs_of_nonneg (Nat.cast_nonneg _), zpow_natCast]
    exact_mod_cast h

theorem rounds_ofWord (n : UInt32) :
    ∃ s, value? (ofWord n : α) = some s ∧ 0 ≤ s ∧ (n = 0 → s = 0) := by
  have hn : (0 : ℝ) ≤ n.toNat := Nat.cast_nonneg _
  have hlt : |(n.toNat : ℝ)| ≤ 2 ^ (32 : ℤ) := by
    have := n.toNat_lt.le
    rw [abs_of_nonneg hn]
    exact_mod_cast this
  obtain ⟨s, hs, -, ⟨hnonneg, hnonpos⟩, -⟩ :=
    LawfulScalar.ofWord (α := α) n 32 (hasPower (by decide)) hlt
  refine ⟨s, hs, hnonneg hn, ?_⟩
  rintro rfl
  exact le_antisymm (hnonpos (by simp)) (hnonneg hn)

theorem value_zero : value? (zero : α) = some 0 := by
  obtain ⟨s, hs, -, hzero⟩ := rounds_ofWord (α := α) 0
  rw [zero, hs, hzero rfl]

theorem bounded_zero (hk : 0 ≤ k ∧ k ≤ 100) : Bounded k (zero : α) :=
  bounded_ofWord hk (Nat.zero_le _)

theorem Bounded.neg (h : Bounded k x) : Bounded k (-x) := by
  obtain ⟨s, hs, hle⟩ := h
  exact ⟨-s, LawfulScalar.neg hs, by rwa [abs_neg]⟩

theorem add_le_two_zpow {a b : ℝ} (ha : a ≤ 2 ^ j) (hb : b ≤ 2 ^ k) (hj : j + 1 ≤ m)
    (hk : k + 1 ≤ m) : a + b ≤ 2 ^ m := by
  have hj' : (2 : ℝ) ^ j ≤ 2 ^ (m - 1) := two_zpow_le (by omega)
  have hk' : (2 : ℝ) ^ k ≤ 2 ^ (m - 1) := two_zpow_le (by omega)
  have hm : (2 : ℝ) ^ m = 2 ^ (m - 1) * 2 := by
    rw [← zpow_add_one₀ two_ne_zero, sub_add_cancel]
  linarith

theorem Bounded.add (hx : Bounded j x) (hy : Bounded k y) (hj : j + 1 ≤ m) (hk : k + 1 ≤ m)
    (hm : HasPower α m) : Bounded m (x + y) := by
  obtain ⟨a, ha, hale⟩ := hx
  obtain ⟨b, hb, hble⟩ := hy
  exact (LawfulScalar.add ha hb).bounded hm
    ((abs_add_le a b).trans (add_le_two_zpow hale hble hj hk))

theorem Bounded.sub (hx : Bounded j x) (hy : Bounded k y) (hj : j + 1 ≤ m) (hk : k + 1 ≤ m)
    (hm : HasPower α m) : Bounded m (x - y) := by
  obtain ⟨a, ha, hale⟩ := hx
  obtain ⟨b, hb, hble⟩ := hy
  exact (LawfulScalar.sub ha hb).bounded hm
    ((abs_sub a b).trans (add_le_two_zpow hale hble hj hk))

theorem Bounded.mul (hx : Bounded j x) (hy : Bounded k y) (hjk : j + k ≤ m)
    (hm : HasPower α m) : Bounded m (x * y) := by
  obtain ⟨a, ha, hale⟩ := hx
  obtain ⟨b, hb, hble⟩ := hy
  refine (LawfulScalar.mul ha hb).bounded hm ?_
  calc |a * b| = |a| * |b| := abs_mul a b
    _ ≤ 2 ^ j * 2 ^ k := mul_le_mul hale hble (abs_nonneg b) (zpow_nonneg two_pos.le j)
    _ = 2 ^ (j + k) := (zpow_add₀ two_ne_zero j k).symm
    _ ≤ 2 ^ m := two_zpow_le hjk

theorem div_le_two_zpow {a b : ℝ} (ha : |a| ≤ 2 ^ j) (hb : 2 ^ k ≤ |b|) (hjk : j - k ≤ m) :
    |a / b| ≤ 2 ^ m := by
  have hpos : (0 : ℝ) < 2 ^ k := zpow_pos two_pos k
  calc |a / b| = |a| / |b| := abs_div a b
    _ ≤ 2 ^ j / 2 ^ k := div_le_div₀ (zpow_nonneg two_pos.le j) ha hpos hb
    _ = 2 ^ (j - k) := (zpow_sub₀ two_ne_zero j k).symm
    _ ≤ 2 ^ m := two_zpow_le hjk

theorem ne_zero_of_two_zpow_le {b : ℝ} (hb : 2 ^ k ≤ |b|) : b ≠ 0 :=
  abs_pos.mp ((zpow_pos two_pos k).trans_le hb)

theorem Bounded.div (hx : Bounded j x) (hy : Above k y) (hjk : j - k ≤ m) (hm : HasPower α m) :
    Bounded m (x / y) := by
  obtain ⟨a, ha, hale⟩ := hx
  obtain ⟨b, hb, hble⟩ := hy
  exact (LawfulScalar.div ha hb (ne_zero_of_two_zpow_le hble)).bounded hm
    (div_le_two_zpow hale hble hjk)

theorem Above.mul {i l : ℤ} (hx : Above i x) (hx' : Bounded j x) (hy : Above k y)
    (hy' : Bounded l y) (hm : HasPower α (j + l)) (hik : HasPower α (i + k)) :
    Above (i + k) (x * y) := by
  obtain ⟨a, ha, hage⟩ := hx
  obtain ⟨a', ha', hale⟩ := hx'
  obtain rfl := Option.some.inj (ha.symm.trans ha')
  obtain ⟨b, hb, hbge⟩ := hy
  obtain ⟨b', hb', hble⟩ := hy'
  obtain rfl := Option.some.inj (hb.symm.trans hb')
  refine (LawfulScalar.mul ha hb).above hm ?_ hik ?_
  · rw [abs_mul, zpow_add₀ two_ne_zero]
    exact mul_le_mul hale hble (abs_nonneg b) (zpow_nonneg two_pos.le j)
  · rw [abs_mul, zpow_add₀ two_ne_zero]
    exact mul_le_mul hage hbge (zpow_nonneg two_pos.le k) (abs_nonneg a)

theorem Above.div {i l : ℤ} (hx : Above i x) (hx' : Bounded j x) (hy : Above k y)
    (hy' : Bounded l y) (hm : HasPower α (j - k)) (hil : HasPower α (i - l)) :
    Above (i - l) (x / y) := by
  obtain ⟨a, ha, hage⟩ := hx
  obtain ⟨a', ha', hale⟩ := hx'
  obtain rfl := Option.some.inj (ha.symm.trans ha')
  obtain ⟨b, hb, hbge⟩ := hy
  obtain ⟨b', hb', hble⟩ := hy'
  obtain rfl := Option.some.inj (hb.symm.trans hb')
  have hb0 := ne_zero_of_two_zpow_le hbge
  refine (LawfulScalar.div ha hb hb0).above hm (div_le_two_zpow hale hbge le_rfl) hil ?_
  calc (2 : ℝ) ^ (i - l) = 2 ^ i / 2 ^ l := zpow_sub₀ two_ne_zero i l
    _ ≤ |a| / |b| := div_le_div₀ (abs_nonneg a) hage (abs_pos.mpr hb0) hble
    _ = |a / b| := (abs_div a b).symm

theorem bounded_of_within (hlow : Bounded k low) (hhigh : Bounded k high)
    (h : within low high x = true) : Bounded k x := by
  obtain ⟨hl, hh⟩ := (Bool.and_eq_true ..).mp h
  obtain ⟨s, hs⟩ := Option.isSome_iff_exists.mp
    (LawfulScalar.finite_of_le hl hh hlow.isSome hhigh.isSome)
  obtain ⟨a, ha, hale⟩ := hlow
  obtain ⟨b, hb, hble⟩ := hhigh
  have has := (LawfulScalar.le_iff ha hs).mp hl
  have hsb := (LawfulScalar.le_iff hs hb).mp hh
  refine ⟨s, hs, abs_le.mpr ⟨?_, ?_⟩⟩
  · exact (neg_le_of_abs_le hale).trans has
  · exact hsb.trans (le_of_abs_le hble)

theorem Bounded.floor (h : Bounded k x) (hk : 0 ≤ k) (hk' : HasPower α k) :
    Bounded k (floor x) := by
  obtain ⟨a, ha, hle⟩ := h
  refine (LawfulScalar.floor ha).bounded hk' ?_
  obtain ⟨i, rfl⟩ := Int.eq_ofNat_of_zero_le hk
  rw [zpow_natCast] at hle ⊢
  obtain ⟨hlow, hhigh⟩ := abs_le.mp hle
  refine abs_le.mpr ⟨?_, (Int.floor_le a).trans hhigh⟩
  -- The bound is whole, so the floor does not pass it.
  have hwhole : -(2 : ℤ) ^ i ≤ ⌊a⌋ := Int.le_floor.mpr (by exact_mod_cast hlow)
  exact_mod_cast hwhole

theorem Bounded.round (h : Bounded k x) (hk : 0 ≤ k) (hm : HasPower α (k + 1)) :
    Bounded (k + 1) (round x) := by
  obtain ⟨a, ha, hle⟩ := h
  obtain ⟨n, hn, hr⟩ := LawfulScalar.round ha
  refine hr.bounded hm ?_
  have hone : (1 : ℝ) ≤ 2 ^ k := one_le_zpow₀ one_le_two hk
  have hsum : |(n : ℝ)| ≤ |a| + |a - n| := by
    have := abs_sub a (a - n)
    rwa [sub_sub_cancel] at this
  rw [zpow_add_one₀ two_ne_zero]
  linarith

theorem Above.round (h : Above (k + 1) x) (h' : Bounded j x) (hk : 0 ≤ k) (hj : 0 ≤ j)
    (hm : HasPower α (j + 1)) (hk' : HasPower α k) : Above k (round x) := by
  obtain ⟨a, ha, hge⟩ := h
  obtain ⟨a', ha', hle⟩ := h'
  obtain rfl := Option.some.inj (ha.symm.trans ha')
  obtain ⟨n, hn, hr⟩ := LawfulScalar.round ha
  have hone (i : ℤ) (hi : 0 ≤ i) : (1 : ℝ) ≤ 2 ^ i := one_le_zpow₀ one_le_two hi
  have hupper : |(n : ℝ)| ≤ |a| + |a - n| := by
    have := abs_sub a (a - n)
    rwa [sub_sub_cancel] at this
  have hlower : |a| - |(n : ℝ)| ≤ |a - n| := abs_sub_abs_le_abs_sub ..
  refine hr.above hm ?_ hk' ?_
  · rw [zpow_add_one₀ two_ne_zero]
    linarith [hone j hj]
  · rw [zpow_add_one₀ two_ne_zero] at hge
    linarith [hone k hk]

theorem bounded_sin (hx : Bounded k x) : Bounded 0 (sin x) := by
  obtain ⟨a, ha, -⟩ := hx
  obtain ⟨s, c, hs, -, hle, -⟩ := LawfulScalar.sin_cos ha
  exact ⟨s, hs, by rwa [zpow_zero]⟩

theorem bounded_cos (hx : Bounded k x) : Bounded 0 (cos x) := by
  obtain ⟨a, ha, -⟩ := hx
  obtain ⟨s, c, -, hc, -, hle, -⟩ := LawfulScalar.sin_cos ha
  exact ⟨c, hc, by rwa [zpow_zero]⟩

theorem above_sin_or_cos (hx : Bounded k x) : Above (-1) (sin x) ∨ Above (-1) (cos x) := by
  obtain ⟨a, ha, -⟩ := hx
  obtain ⟨s, c, hs, hc, -, -, hone⟩ := LawfulScalar.sin_cos ha
  have hhalf : (2 : ℝ) ^ (-1 : ℤ) = 1 / 2 := by norm_num
  exact hone.imp (fun h => ⟨s, hs, by rwa [hhalf]⟩) fun h => ⟨c, hc, by rwa [hhalf]⟩

theorem bounded_signum (h : (value? x).isSome = true) : Bounded 0 (signum x) := by
  have hone : Bounded 0 (ofWord 1 : α) := bounded_ofWord (by decide) (by decide)
  rw [signum, isNaN_of_isSome h, if_neg Bool.false_ne_true]
  split
  · exact hone.neg
  · exact hone

theorem bounded_degree : Bounded 0 (degree : α) := by
  obtain ⟨d, hd, hle⟩ := LawfulScalar.degree (α := α)
  exact ⟨d, hd, by rwa [zpow_zero]⟩

end

/-! ## From one precision to the other -/

section

variable {V W : Type} [Scalar V] [Scalar W] [Precision V W] [RealValued V] [RealValued W]
  [LawfulPrecision V W] {j k : ℤ}

theorem Bounded.widen {x : V} (h : Bounded k x) : Bounded k (widen x : W) := by
  obtain ⟨a, ha, hle⟩ := h
  exact ⟨a, LawfulPrecision.widen ha, hle⟩

theorem Above.widen {x : V} (h : Above k x) : Above k (widen x : W) := by
  obtain ⟨a, ha, hge⟩ := h
  exact ⟨a, LawfulPrecision.widen ha, hge⟩

theorem Bounded.narrow {y : W} (h : Bounded k y) (hk : HasPower V k) :
    Bounded k (narrow y : V) := by
  obtain ⟨b, hb, hle⟩ := h
  exact (LawfulPrecision.narrow hb).bounded hk hle

theorem Above.narrow {y : W} (h : Above j y) (h' : Bounded k y) (hj : HasPower V j)
    (hk : HasPower V k) : Above j (narrow y : V) := by
  obtain ⟨b, hb, hge⟩ := h
  obtain ⟨b', hb', hle⟩ := h'
  obtain rfl := Option.some.inj (hb.symm.trans hb')
  exact (LawfulPrecision.narrow hb).above hk hle hj hge

end

end VirtualPad
