import VirtualPad.Proofs.Number.Exact

/-!
# Whole bounds

Both precisions of floating point have all whole numbers of at most 2^24. Rounding to a nearest value
therefore passes none of them (`RoundsWhole`): it keeps a whole result, and leaves any other between
the whole numbers that it was between. `Between m n x` is such a pair of bounds, and the lemmas here
carry them through the operations. Exact arithmetic is an instance.
-/

namespace VirtualPad

open Scalar Precision RealValued

section

variable {α : Type} [RealValued α]

/-- A value is a real number, rounded: as long as that is of moderate size, the value is finite, and
it is not on the other side of any whole number. -/
def RoundsWhole (r : ℝ) (x : α) : Prop :=
  |r| ≤ (2 ^ 24 : ℤ) → ∃ s, value? x = some s ∧ ∀ n : ℤ, (r ≤ n → s ≤ n) ∧ (n ≤ r → n ≤ s)

/-- A finite value between two whole numbers. -/
def Between (m n : ℤ) (x : α) : Prop := ∃ s, value? x = some s ∧ s ∈ Set.Icc (m : ℝ) n

end

/-- Rounded arithmetic that has the whole numbers of moderate size, and with each value the whole
numbers next to it. -/
class WholeScalar (α : Type) [Scalar α] [RealValued α] : Prop extends LawfulScalar α where
  lt_iff {x y : α} {a b : ℝ} : value? x = some a → value? y = some b → (lt x y = true ↔ a < b)
  whole_ofWord (n : UInt32) : RoundsWhole n.toNat (Scalar.ofWord n : α)
  whole_add {x y : α} {a b : ℝ} : value? x = some a → value? y = some b →
    RoundsWhole (a + b) (x + y)
  whole_sub {x y : α} {a b : ℝ} : value? x = some a → value? y = some b →
    RoundsWhole (a - b) (x - y)
  whole_mul {x y : α} {a b : ℝ} : value? x = some a → value? y = some b →
    RoundsWhole (a * b) (x * y)
  whole_div {x y : α} {a b : ℝ} : value? x = some a → value? y = some b → b ≠ 0 →
    RoundsWhole (a / b) (x / y)
  value_floor {x : α} {a : ℝ} : value? x = some a → value? (Scalar.floor x) = some (⌊a⌋ : ℝ)
  value_round {x : α} {a : ℝ} : value? x = some a →
    value? (Scalar.round x) = some (nearest a : ℝ)

/-- A wider type, from which the way back passes no whole number either. -/
class WholePrecision (V W : Type) [Scalar V] [Scalar W] [Precision V W] [RealValued V]
    [RealValued W] : Prop extends LawfulPrecision V W where
  whole_narrow {y : W} {b : ℝ} : value? y = some b → RoundsWhole b (Precision.narrow y : V)

/-! ## Bounds of results -/

section

variable {α : Type} [RealValued α] {x y : α} {a b c d m n : ℤ}

theorem between_self_iff : Between n n x ↔ value? x = some (n : ℝ) := by
  constructor
  · rintro ⟨s, hs, hlow, hhigh⟩
    rw [hs, le_antisymm hhigh hlow]
  · exact fun h => ⟨n, h, le_rfl, le_rfl⟩

theorem Between.mono (h : Between a b x) (hm : m ≤ a) (hn : b ≤ n) : Between m n x := by
  obtain ⟨s, hs, hlow, hhigh⟩ := h
  exact ⟨s, hs, (Int.cast_le.mpr hm).trans hlow, hhigh.trans (Int.cast_le.mpr hn)⟩

/-- Rounding does not lead out of whole bounds. -/
theorem RoundsWhole.between {r : ℝ} (h : RoundsWhole r x) (hm : (m : ℝ) ≤ r) (hn : r ≤ n)
    (hsize : -2 ^ 24 ≤ m ∧ n ≤ 2 ^ 24) : Between m n x := by
  have hlow : -((2 ^ 24 : ℤ) : ℝ) ≤ m := by exact_mod_cast hsize.1
  have hhigh : (n : ℝ) ≤ (2 ^ 24 : ℤ) := Int.cast_le.mpr hsize.2
  obtain ⟨s, hs, hwhole⟩ := h (abs_le.mpr ⟨hlow.trans hm, hn.trans hhigh⟩)
  exact ⟨s, hs, (hwhole m).2 hm, (hwhole n).1 hn⟩

theorem Between.bounded (h : Between m n x) {k : ℕ} (hm : -2 ^ k ≤ m) (hn : n ≤ 2 ^ k) :
    Bounded k x := by
  obtain ⟨s, hs, hlow, hhigh⟩ := h
  have hm : (-2 ^ k : ℝ) ≤ m := by exact_mod_cast hm
  have hn : (n : ℝ) ≤ 2 ^ k := by exact_mod_cast hn
  refine ⟨s, hs, ?_⟩
  rw [zpow_natCast]
  exact abs_le.mpr ⟨hm.trans hlow, hhigh.trans hn⟩

variable [Scalar α] [WholeScalar α]

theorem value_ofWord_whole {w : UInt32} (hn : (w.toNat : ℤ) = n) (hsize : n ≤ 2 ^ 24) :
    value? (ofWord w : α) = some (n : ℝ) := by
  subst hn
  refine between_self_iff.mp ((WholeScalar.whole_ofWord w).between ?_ ?_ ⟨by omega, hsize⟩)
  · rw [Int.cast_natCast]
  · rw [Int.cast_natCast]

theorem Between.neg (h : Between m n x) : Between (-n) (-m) (-x) := by
  obtain ⟨s, hs, hlow, hhigh⟩ := h
  refine ⟨-s, LawfulScalar.neg hs, ?_, ?_⟩
  · rw [Int.cast_neg]
    exact neg_le_neg hhigh
  · rw [Int.cast_neg]
    exact neg_le_neg hlow

theorem Between.add (hx : Between a b x) (hy : Between c d y) (hm : m ≤ a + c) (hn : b + d ≤ n)
    (hsize : -2 ^ 24 ≤ m ∧ n ≤ 2 ^ 24) : Between m n (x + y) := by
  obtain ⟨s, hs, hslow, hshigh⟩ := hx
  obtain ⟨t, ht, htlow, hthigh⟩ := hy
  have hm : (m : ℝ) ≤ a + c := by exact_mod_cast hm
  have hn : (b + d : ℝ) ≤ n := by exact_mod_cast hn
  exact (WholeScalar.whole_add hs ht).between (hm.trans (add_le_add hslow htlow))
    ((add_le_add hshigh hthigh).trans hn) hsize

theorem Between.sub (hx : Between a b x) (hy : Between c d y) (hm : m ≤ a - d) (hn : b - c ≤ n)
    (hsize : -2 ^ 24 ≤ m ∧ n ≤ 2 ^ 24) : Between m n (x - y) := by
  obtain ⟨s, hs, hslow, hshigh⟩ := hx
  obtain ⟨t, ht, htlow, hthigh⟩ := hy
  have hm : (m : ℝ) ≤ a - d := by exact_mod_cast hm
  have hn : (b - c : ℝ) ≤ n := by exact_mod_cast hn
  exact (WholeScalar.whole_sub hs ht).between (hm.trans (sub_le_sub hslow hthigh))
    ((sub_le_sub hshigh htlow).trans hn) hsize

theorem Between.mul {k : ℤ} (hx : Between a b x) (hy : value? y = some (k : ℝ)) (hk : 0 ≤ k)
    (hm : m ≤ a * k) (hn : b * k ≤ n) (hsize : -2 ^ 24 ≤ m ∧ n ≤ 2 ^ 24) :
    Between m n (x * y) := by
  obtain ⟨s, hs, hlow, hhigh⟩ := hx
  have hk : (0 : ℝ) ≤ k := Int.cast_nonneg hk
  have hm : (m : ℝ) ≤ a * k := by exact_mod_cast hm
  have hn : (b * k : ℝ) ≤ n := by exact_mod_cast hn
  exact (WholeScalar.whole_mul hs hy).between (hm.trans (mul_le_mul_of_nonneg_right hlow hk))
    ((mul_le_mul_of_nonneg_right hhigh hk).trans hn) hsize

theorem Between.div {k : ℤ} (hx : Between a b x) (hy : value? y = some (k : ℝ)) (hk : 0 < k)
    (hm : m * k ≤ a) (hn : b ≤ n * k) (hsize : -2 ^ 24 ≤ m ∧ n ≤ 2 ^ 24) :
    Between m n (x / y) := by
  obtain ⟨s, hs, hlow, hhigh⟩ := hx
  have hk : (0 : ℝ) < k := Int.cast_pos.mpr hk
  have hm : (m * k : ℝ) ≤ a := by exact_mod_cast hm
  have hn : (b : ℝ) ≤ n * k := by exact_mod_cast hn
  exact (WholeScalar.whole_div hs hy hk.ne').between ((le_div_iff₀ hk).mpr (hm.trans hlow))
    ((div_le_iff₀ hk).mpr (hhigh.trans hn)) hsize

theorem Between.sub_floor {s : ℝ} (hs : value? x = some s) : Between 0 1 (x - floor x) := by
  have hpart := WholeScalar.whole_sub hs (WholeScalar.value_floor hs)
  rw [Int.self_sub_floor] at hpart
  refine hpart.between ?_ ?_ (by decide)
  · rw [Int.cast_zero]
    exact Int.fract_nonneg s
  · rw [Int.cast_one]
    exact (Int.fract_lt_one s).le

/-! ## Bounds from comparisons -/

theorem Between.of_lt (hx : Between m n x) (hy : value? y = some (c : ℝ)) (h : lt x y = true) :
    Between m c x := by
  obtain ⟨s, hs, hlow, -⟩ := hx
  exact ⟨s, hs, hlow, ((WholeScalar.lt_iff hs hy).mp h).le⟩

theorem Between.of_not_lt (hx : Between m n x) (hy : value? y = some (c : ℝ))
    (h : ¬lt x y = true) : Between c n x := by
  obtain ⟨s, hs, -, hhigh⟩ := hx
  exact ⟨s, hs, not_lt.mp fun hlt => h ((WholeScalar.lt_iff hs hy).mpr hlt), hhigh⟩

theorem Between.of_within {low high : α} (hlow : value? low = some (m : ℝ))
    (hhigh : value? high = some (n : ℝ)) (h : within low high x = true) : Between m n x := by
  obtain ⟨hl, hh⟩ := (Bool.and_eq_true ..).mp h
  obtain ⟨s, hs⟩ := Option.isSome_iff_exists.mp
    (LawfulScalar.finite_of_le hl hh (by rw [hlow]; rfl) (by rw [hhigh]; rfl))
  exact ⟨s, hs, (LawfulScalar.le_iff hlow hs).mp hl, (LawfulScalar.le_iff hs hhigh).mp hh⟩

end

/-! ## From one precision to the other -/

section

variable {V W : Type} [Scalar V] [Scalar W] [Precision V W] [RealValued V] [RealValued W]
  [WholePrecision V W] {m n : ℤ}

theorem Between.widen {x : V} (h : Between m n x) : Between m n (widen x : W) := by
  obtain ⟨s, hs, hmem⟩ := h
  exact ⟨s, LawfulPrecision.widen hs, hmem⟩

theorem value_narrow_whole {y : W} (h : value? y = some (n : ℝ))
    (hsize : -2 ^ 24 ≤ n ∧ n ≤ 2 ^ 24) : value? (narrow y : V) = some (n : ℝ) :=
  between_self_iff.mp ((WholePrecision.whole_narrow h).between le_rfl le_rfl hsize)

end

/-! ## Exact arithmetic -/

noncomputable section

theorem Exact.roundsWhole (a : Exact) : RoundsWhole a.value a :=
  fun _ => ⟨a.value, rfl, fun _ => ⟨id, id⟩⟩

instance : WholeScalar Exact where
  lt_iff hx hy := by
    obtain rfl := Option.some.inj hx
    obtain rfl := Option.some.inj hy
    exact decide_eq_true_iff
  whole_ofWord n := Exact.roundsWhole _
  whole_add hx hy := by
    obtain rfl := Option.some.inj hx
    obtain rfl := Option.some.inj hy
    exact Exact.roundsWhole _
  whole_sub hx hy := by
    obtain rfl := Option.some.inj hx
    obtain rfl := Option.some.inj hy
    exact Exact.roundsWhole _
  whole_mul hx hy := by
    obtain rfl := Option.some.inj hx
    obtain rfl := Option.some.inj hy
    exact Exact.roundsWhole _
  whole_div hx hy _ := by
    obtain rfl := Option.some.inj hx
    obtain rfl := Option.some.inj hy
    exact Exact.roundsWhole _
  value_floor hx := by
    obtain rfl := Option.some.inj hx
    rfl
  value_round hx := by
    obtain rfl := Option.some.inj hx
    rfl

instance : WholePrecision Exact Exact where
  whole_narrow h := by
    obtain rfl := Option.some.inj h
    exact Exact.roundsWhole _

theorem Exact.between_iff {m n : ℤ} {x : Exact} : Between m n x ↔ x.value ∈ Set.Icc (m : ℝ) n :=
  ⟨fun ⟨_, hs, h⟩ => Option.some.inj hs ▸ h, fun h => ⟨x.value, rfl, h⟩⟩

end

end VirtualPad
