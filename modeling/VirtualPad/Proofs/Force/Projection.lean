import Mathlib.Algebra.Order.Archimedean.Basic
import Mathlib.Data.List.MinMax
import VirtualPad.Proofs.Force.Coordinates
import VirtualPad.Proofs.Force.Level

/-!
# Projections are finite

A direction splits a magnitude in proportion to its components, so it divides by their length. The
length is not zero and nothing overflows as long as all components are finite and one of them is not
zero. Directions set by angles are like that, and so are directions set in Cartesian coordinates if
the coordinates are finite.

The components may be very large or very small, so here bounds are relative to `k`, the power of two
at the greatest component.
-/

namespace VirtualPad

open Scalar Precision RealValued
open LawfulScalar (hasPower)

variable {V W : Type} [Scalar V] [Scalar W] [Precision V W]

namespace Direction

/-- At most three components, all of them finite, and one that is not zero. -/
structure Regular [RealValued V] (d : Direction V) : Prop where
  length_le : d.components.length ≤ directionAxisLimit
  finite : ∀ c ∈ d.components, (value? c).isSome = true
  nonzero : ∃ c ∈ d.components, ∃ a, value? c = some a ∧ a ≠ 0

/-! ## Directions set in Cartesian coordinates -/

section

variable [RealValued V] [LawfulScalar V]

theorem regular_default : (default : Direction V).Regular := by
  have hone : Bounded 0 (ofWord 1 : V) := bounded_ofWord (by decide) (by decide)
  obtain ⟨a, ha, hge⟩ : Above 0 (ofWord 1 : V) := above_ofWord (by decide) (by decide)
  refine ⟨(by decide : 1 ≤ directionAxisLimit), fun c hc => ?_, ofWord 1, List.mem_cons_self ..,
    a, ha, ne_zero_of_two_zpow_le hge⟩
  rw [List.mem_singleton.mp hc]
  exact hone.isSome

theorem regular_setCartesian {d₀ d : Direction V} {cs : List V}
    (h : d₀.setCartesian cs = (d, .ok ()))
    (hfinite : d.system = .cartesian → ∀ c ∈ d.components, (value? c).isSome = true) :
    d.Regular := by
  rw [setCartesian] at h
  split at h
  · cases h
  rename_i hcount
  split at h
  · cases h
  rename_i hzero
  obtain rfl := (Prod.mk.inj h).1
  push Not at hcount
  have hfinite := hfinite rfl
  refine ⟨hcount.2, hfinite, ?_⟩
  -- A component that is not equal to zero does not stand for zero.
  rw [List.all_eq_true] at hzero
  push Not at hzero
  obtain ⟨c, hc, hne⟩ := hzero
  obtain ⟨a, ha⟩ := Option.isSome_iff_exists.mp (hfinite c hc)
  exact ⟨c, hc, a, ha, fun ha0 => hne ((LawfulScalar.eq_iff ha value_zero).mpr ha0)⟩

end

/-! ## Sums of squares -/

section

variable [RealValued W] [LawfulScalar W]

section

variable {k i : ℤ} {s : W} {b : ℝ}

theorem add_square (hp : ∀ {i : ℤ}, 0 ≤ i ∧ i ≤ 100 → HasPower W (2 * k + i)) {w : W}
    (hw : Bounded (k + 1) w) (hs : value? s = some b) (hb : 0 ≤ b) (hb' : b ≤ 2 ^ (2 * k + i))
    (hi : 2 ≤ i ∧ i < 100) :
    ∃ b', value? (s + w * w) = some b' ∧ 0 ≤ b' ∧ b' ≤ 2 ^ (2 * k + (i + 1)) ∧
      (2 ^ (2 * k) ≤ b ∨ Above k w → 2 ^ (2 * k) ≤ b') := by
  have hpower : HasPower W (2 * k) := by simpa using hp (i := 0) (by decide)
  obtain ⟨a, ha, hale⟩ := hw
  have hsquare : |a * a| ≤ 2 ^ (2 * k + 2) := by
    have hexp : 2 * k + 2 = (k + 1) + (k + 1) := by omega
    rw [abs_mul, hexp, zpow_add₀ two_ne_zero]
    exact mul_le_mul hale hale (abs_nonneg a) (zpow_nonneg two_pos.le _)
  obtain ⟨q, hq, hqle, ⟨hq0, -⟩, hqge⟩ := LawfulScalar.mul ha ha _ (hp (by decide)) hsquare
  have hq0 : 0 ≤ q := hq0 (mul_self_nonneg a)
  have hsum : |b + q| ≤ 2 ^ (2 * k + (i + 1)) := by
    rw [abs_of_nonneg (add_nonneg hb hq0)]
    exact add_le_two_zpow hb' (le_of_abs_le hqle) (by omega) (by omega)
  obtain ⟨b', hb1, hb1le, ⟨hb10, -⟩, hb1ge⟩ := LawfulScalar.add hs hq _ (hp (by omega)) hsum
  have hb10 : 0 ≤ b' := hb10 (add_nonneg hb hq0)
  refine ⟨b', hb1, hb10, le_of_abs_le hb1le, fun h => ?_⟩
  rw [← abs_of_nonneg hb10]
  refine hb1ge _ hpower ?_
  rw [abs_of_nonneg (add_nonneg hb hq0)]
  -- Squares are not negative, so it is enough that the sum so far or the new square is large.
  rcases h with h | ⟨a', ha', h⟩
  · linarith
  · obtain rfl := Option.some.inj (ha.symm.trans ha')
    have hge : (2 : ℝ) ^ (2 * k) ≤ |q| := by
      refine hqge _ hpower ?_
      rw [abs_mul, two_mul, zpow_add₀ two_ne_zero]
      exact mul_le_mul h h (zpow_nonneg two_pos.le k) (abs_nonneg a)
    rw [abs_of_nonneg hq0] at hge
    linarith

theorem foldl_square (hp : ∀ {i : ℤ}, 0 ≤ i ∧ i ≤ 100 → HasPower W (2 * k + i)) {ws : List W}
    (hws : ∀ w ∈ ws, Bounded (k + 1) w) (hs : value? s = some b) (hb : 0 ≤ b)
    (hb' : b ≤ 2 ^ (2 * k + i)) (hi : 2 ≤ i ∧ i + ws.length ≤ 100) :
    ∃ b', value? (ws.foldl (fun sum c => sum + c * c) s) = some b' ∧ 0 ≤ b' ∧
      b' ≤ 2 ^ (2 * k + (i + ws.length)) ∧
      (2 ^ (2 * k) ≤ b ∨ (∃ w ∈ ws, Above k w) → 2 ^ (2 * k) ≤ b') := by
  induction ws generalizing s b i with
  | nil =>
    rw [List.length_nil, Nat.cast_zero, add_zero]
    exact ⟨b, hs, hb, hb', fun h => h.elim (fun h => h) fun ⟨w, hw, _⟩ => by cases hw⟩
  | cons w ws ih =>
    rw [List.length_cons, Nat.cast_succ] at hi ⊢
    obtain ⟨b₁, hs₁, hb₁, hb₁', habove₁⟩ :=
      add_square hp (hws w (List.mem_cons_self ..)) hs hb hb' (by omega)
    obtain ⟨b₂, hs₂, hb₂, hb₂', habove₂⟩ :=
      ih (fun v hv => hws v (List.mem_cons_of_mem _ hv)) hs₁ hb₁ hb₁' (by omega)
    have hsum : i + 1 + (ws.length : ℤ) = i + (ws.length + 1) := by omega
    rw [hsum] at hb₂'
    refine ⟨b₂, hs₂, hb₂, hb₂', fun h => habove₂ ?_⟩
    rcases h with h | ⟨v, hv, h⟩
    · exact .inl (habove₁ (.inl h))
    · rcases List.mem_cons.mp hv with rfl | hv
      · exact .inl (habove₁ (.inr h))
      · exact .inr ⟨v, hv, h⟩

end

/-! ## Directions set by angles -/

theorem bounded_raise {cs : List W} (hcs : ∀ c ∈ cs, Bounded 0 c) {angle : W} {k : ℤ}
    (hangle : Bounded k angle) : ∀ c ∈ raise cs angle, Bounded 0 c := by
  intro c hc
  rw [raise, List.mem_append, List.mem_map, List.mem_singleton] at hc
  rcases hc with ⟨c', hc', rfl⟩ | rfl
  · exact (hcs c' hc').mul (bounded_cos hangle) (by decide) (hasPower (by decide))
  · exact bounded_sin hangle

theorem above_raise {cs : List W} (hcs : ∀ c ∈ cs, Bounded 0 c) {n : ℤ} (hn : 1 ≤ n ∧ n ≤ 50)
    (habove : ∃ c ∈ cs, Above (-n) c) {angle : W} {k : ℤ} (hangle : Bounded k angle) :
    ∃ c ∈ raise cs angle, Above (-(n + 1)) c := by
  obtain ⟨c, hc, ha⟩ := habove
  rcases above_sin_or_cos hangle with hsin | hcos
  · refine ⟨sin angle, ?_, hsin.mono (by omega)⟩
    exact List.mem_append_right _ (List.mem_singleton.mpr rfl)
  · refine ⟨c * cos angle, ?_, ?_⟩
    · exact List.mem_append_left _ (List.mem_map.mpr ⟨c, hc, rfl⟩)
    · rw [neg_add]
      exact ha.mul (hcs c hc) hcos (bounded_cos hangle) (hasPower (by decide)) (hasPower (by omega))

theorem foldl_raise {rest : List W} {k : ℤ} (hrest : ∀ a ∈ rest, Bounded k a) {cs : List W}
    (hcs : ∀ c ∈ cs, Bounded 0 c) {n : ℤ} (hn : 1 ≤ n ∧ n + rest.length ≤ 50)
    (habove : ∃ c ∈ cs, Above (-n) c) :
    (∀ c ∈ rest.foldl raise cs, Bounded 0 c) ∧
      ∃ c ∈ rest.foldl raise cs, Above (-(n + rest.length)) c := by
  induction rest generalizing cs n with
  | nil =>
    obtain ⟨c, hc, h⟩ := habove
    exact ⟨hcs, c, hc, h.mono (by simp)⟩
  | cons angle rest ih =>
    rw [List.length_cons, Nat.cast_succ] at hn
    have hangle := hrest angle (List.mem_cons_self ..)
    obtain ⟨hbounded, habove⟩ := ih
      (fun a ha => hrest a (List.mem_cons_of_mem _ ha)) (bounded_raise hcs hangle) (n := n + 1)
      (by omega) (above_raise hcs (by omega) habove hangle)
    refine ⟨hbounded, ?_⟩
    rw [List.length_cons, Nat.cast_succ]
    have hsum : n + 1 + (rest.length : ℤ) = n + (rest.length + 1) := by omega
    rwa [← hsum]

/-- Components of unit length at most, and one of at least a quarter. -/
theorem unitComponents_between {angles : List W} (hne : angles ≠ [])
    (hlength : angles.length < directionAxisLimit) {k : ℤ} (hangles : ∀ a ∈ angles, Bounded k a) :
    (∀ c ∈ unitComponents angles, Bounded 0 c) ∧ ∃ c ∈ unitComponents angles, Above (-2) c := by
  cases angles with
  | nil => exact absurd rfl hne
  | cons angle rest =>
    have hrest : rest.length ≤ 1 := Nat.le_of_lt_succ (Nat.lt_of_succ_lt_succ hlength)
    have hangle := hangles angle (List.mem_cons_self ..)
    have hcs : ∀ c ∈ [cos angle, sin angle], Bounded 0 c := by
      intro c hc
      rcases List.mem_cons.mp hc with rfl | hc
      · exact bounded_cos hangle
      · rw [List.mem_singleton.mp hc]
        exact bounded_sin hangle
    have habove : ∃ c ∈ [cos angle, sin angle], Above (-1) c := by
      rcases above_sin_or_cos hangle with h | h
      · exact ⟨_, List.mem_cons_of_mem _ (List.mem_cons_self ..), h⟩
      · exact ⟨_, List.mem_cons_self .., h⟩
    obtain ⟨hbounded, c, hc, hc'⟩ := foldl_raise
      (fun a ha => hangles a (List.mem_cons_of_mem _ ha)) hcs (n := 1) (by omega) habove
    exact ⟨hbounded, c, hc, hc'.mono (by omega)⟩

end

variable [RealValued V] [LawfulScalar V] [RealValued W] [LawfulScalar W] [LawfulPrecision V W]

omit [LawfulScalar V] in
theorem bounded_radians {angle : V} {k : ℤ} (h : Bounded k angle) (hk : 6 ≤ k ∧ k ≤ 50) :
    Bounded k (radians angle : W) := by
  have hdegrees : Bounded (k - 6) (widen angle / ofWord 100 : W) :=
    h.widen.div (above_ofWord (by decide) (by decide)) le_rfl (hasPower (by omega))
  exact hdegrees.mul bounded_degree (by omega) (hasPower (by omega))

/-- Components rounded to whole parts of ten thousand are finite, and one of at least a quarter does
not become zero. -/
theorem regular_ofAngles {angles : List V} (hne : angles ≠ [])
    (hlength : angles.length < directionAxisLimit) (hangles : ∀ a ∈ angles, Bounded 18 a)
    (system : CoordinateSystem) : (⟨ofAngles angles, system⟩ : Direction V).Regular := by
  have hradians : ∀ a ∈ angles.map (radians (W := W)), Bounded 18 a := by
    intro a ha
    obtain ⟨b, hb, rfl⟩ := List.mem_map.mp ha
    exact bounded_radians (hangles b hb) (by decide)
  have hnonempty : angles.map (radians (W := W)) ≠ [] := by simpa using hne
  have hfew : (angles.map (radians (W := W))).length < directionAxisLimit := by
    rwa [List.length_map]
  obtain ⟨hbounded, c, hc, habove⟩ := unitComponents_between hnonempty hfew hradians
  have hscaled {c : W} (hc : Bounded 0 c) : Bounded 14 (c * ofWord 10000) :=
    hc.mul (k := 14) (bounded_ofWord (by decide) (by decide)) (by decide) (hasPower (by decide))
  refine ⟨?_, ?_, ?_⟩
  · show (ofAngles (W := W) angles).length ≤ directionAxisLimit
    rw [length_ofAngles hne]
    exact hlength
  · intro v hv
    obtain ⟨c, hc, rfl⟩ := List.mem_map.mp hv
    have hround := (hscaled (hbounded c hc)).round (by decide) (hasPower (by decide))
    exact (hround.narrow (hasPower (by decide))).isSome
  · have hlarge : Above 11 (c * ofWord 10000) :=
      habove.mul (k := 13) (hbounded c hc) (above_ofWord (by decide) (by decide))
        (bounded_ofWord (k := 14) (by decide) (by decide)) (hasPower (by decide))
        (hasPower (by decide))
    have hround := (hscaled (hbounded c hc)).round (by decide) (hasPower (by decide))
    obtain ⟨a, ha, hge⟩ := (hlarge.round (k := 10) (hscaled (hbounded c hc)) (by decide) (by decide)
      (hasPower (by decide)) (hasPower (by decide))).narrow (V := V) hround (hasPower (by decide))
      (hasPower (by decide))
    exact ⟨_, List.mem_map.mpr ⟨c, hc, rfl⟩, a, ha, ne_zero_of_two_zpow_le hge⟩

theorem regular_setPolar {d₀ d : Direction V} {angles : List V}
    (h : d₀.setPolar angles = (d, .ok ())) : d.Regular := by
  rw [setPolar.eq_def] at h
  split at h
  · rename_i a
    split at h
    · rename_i hangle
      obtain rfl := (Prod.mk.inj h).1
      have hlength : [wrapTurn (a + ofWord 27000)].length < directionAxisLimit :=
        (by decide : 1 < directionAxisLimit)
      refine regular_ofAngles (by simp) hlength (fun b hb => ?_) .polar
      rw [List.mem_singleton.mp hb]
      have hsum : Bounded 17 (a + ofWord 27000) :=
        (bounded_angle hangle).add (k := 15) (bounded_ofWord (by decide) (by decide))
          (by decide) (by decide) (hasPower (by decide))
      exact bounded_wrapTurn hsum (by decide) (by decide) (hasPower (by decide))
    · cases h
  · cases h

theorem regular_setSpherical {d₀ d : Direction V} {angles : List V}
    (h : d₀.setSpherical angles = (d, .ok ())) : d.Regular := by
  rw [setSpherical] at h
  split at h
  · cases h
  rename_i hcount
  push Not at hcount
  split at h
  · cases h
  rename_i hnone
  obtain rfl := (Prod.mk.inj h).1
  refine regular_ofAngles hcount.1 hcount.2 (fun a ha => ?_) .spherical
  have hangle := List.find?_eq_none.mp hnone a ha
  exact (bounded_angle (by simpa using hangle)).mono (by decide)

theorem Made.regular {d : Direction V} (h : d.Made)
    (hfinite : d.system = .cartesian → ∀ c ∈ d.components, (value? c).isSome = true) :
    d.Regular := by
  rcases h with rfl | ⟨system, coordinates, h⟩
  · exact regular_default
  · have h := ofCoordinates_eq_ok h
    cases system with
    | cartesian => exact regular_setCartesian h hfinite
    | polar => exact regular_setPolar h
    | spherical => exact regular_setSpherical h

/-! ## Splitting a magnitude -/

/-- Two to the power `k` is at the greatest component. -/
structure Scale (d : Direction V) (k : ℤ) : Prop where
  below : ∀ c ∈ d.components, Bounded (k + 1) c
  above : ∃ c ∈ d.components, Above k c
  hasPower {i : ℤ} : 0 ≤ i ∧ i ≤ 100 → HasPower W (k + i) ∧ HasPower W (2 * k + i)

omit [LawfulScalar V] [LawfulScalar W] in
theorem Regular.exists_scale {d : Direction V} (h : d.Regular) : ∃ k, d.Scale (W := W) k := by
  -- The scale is taken from the greatest component, which is not zero since some component is not.
  let size (c : V) : ℝ := |(value? c).getD 0|
  have hsize {c : V} {a : ℝ} (ha : value? c = some a) : size c = |a| := by
    simp only [size, ha, Option.getD_some]
  obtain ⟨c₀, hc₀, a₀, ha₀, hne⟩ := h.nonzero
  obtain ⟨c, hc⟩ : ∃ c, d.components.argmax size = some c := by
    rw [← Option.ne_none_iff_exists', ne_eq, List.argmax_eq_none]
    exact List.ne_nil_of_mem hc₀
  have hmem := List.argmax_mem hc
  have hgreatest {b : V} (hb : b ∈ d.components) : size b ≤ size c := List.le_of_mem_argmax hb hc
  obtain ⟨a, ha⟩ := Option.isSome_iff_exists.mp (h.finite c hmem)
  have hpos : 0 < |a| := by
    have := hgreatest hc₀
    rw [hsize ha₀, hsize ha] at this
    exact (abs_pos.mpr hne).trans_le this
  obtain ⟨k, hk, hk'⟩ := exists_mem_Ico_zpow hpos one_lt_two
  refine ⟨k, fun b hb => ?_, ⟨c, hmem, a, ha, hk⟩, LawfulPrecision.hasPower ha hk hk'⟩
  obtain ⟨b', hb'⟩ := Option.isSome_iff_exists.mp (h.finite b hb)
  have := hgreatest hb
  rw [hsize hb', hsize ha] at this
  exact ⟨b', hb', this.trans hk'.le⟩

omit [LawfulScalar V] in
theorem Scale.above_norm {d : Direction V} {k : ℤ} (h : d.Scale (W := W) k)
    (hlength : d.components.length ≤ directionAxisLimit) :
    Above k (norm (d.components.map widen) : W) := by
  have hws : ∀ w ∈ d.components.map (widen (W := W)), Bounded (k + 1) w := by
    intro w hw
    obtain ⟨c, hc, rfl⟩ := List.mem_map.mp hw
    exact (h.below c hc).widen
  have hlength : (d.components.map (widen (W := W))).length ≤ 3 := by
    rw [List.length_map]
    exact hlength
  obtain ⟨b, hb, hb0, hble, hbge⟩ := foldl_square (fun hi => (h.hasPower hi).2) hws (i := 2)
    value_zero le_rfl (zpow_nonneg two_pos.le _) (by omega)
  have hge : (2 : ℝ) ^ (2 * k) ≤ b := by
    obtain ⟨c, hc, habove⟩ := h.above
    exact hbge (.inr ⟨widen c, List.mem_map.mpr ⟨c, hc, rfl⟩, habove.widen⟩)
  have hroot : |√b| ≤ 2 ^ (k + 3) := by
    rw [abs_of_nonneg (Real.sqrt_nonneg b), Real.sqrt_le_left (zpow_nonneg two_pos.le _), sq,
      ← zpow_add₀ two_ne_zero]
    exact hble.trans (two_zpow_le (by omega))
  have hroot' : (2 : ℝ) ^ k ≤ |√b| := by
    rw [abs_of_nonneg (Real.sqrt_nonneg b), Real.le_sqrt' (zpow_pos two_pos k), sq,
      ← zpow_add₀ two_ne_zero, ← two_mul]
    exact hge
  have hpower : HasPower W k := by simpa using (h.hasPower (i := 0) (by decide)).1
  exact (LawfulScalar.sqrt hb hb0).above (h.hasPower (by decide)).1 hroot hpower hroot'

theorem Regular.bounded_project {d : Direction V} (h : d.Regular) {m : V} (hm : Bounded 49 m) :
    (∀ v ∈ d.project m, Bounded 50 v) ∧ (d.project m).length ≤ 3 := by
  have hlength := h.length_le
  obtain ⟨k, hk⟩ := h.exists_scale (W := W)
  have hnorm := hk.above_norm hlength
  unfold project
  split
  · rename_i c hc
    have hfinite := h.finite c (by rw [hc]; exact List.mem_cons_self ..)
    refine ⟨fun v hv => ?_, (by decide : 1 ≤ 3)⟩
    rw [List.mem_singleton.mp hv]
    exact hm.mul (bounded_signum hfinite) (by decide) (hasPower (by decide))
  · refine ⟨fun v hv => ?_, by rw [List.length_map]; exact hlength⟩
    obtain ⟨c, hc, rfl⟩ := List.mem_map.mp hv
    have hproduct : Bounded (k + 50) (widen m * widen c : W) :=
      hm.widen.mul (hk.below c hc).widen (by omega) (hk.hasPower (by decide)).1
    have hpart : Bounded 50 (widen m * widen c / norm (d.components.map widen) : W) :=
      hproduct.div hnorm (by omega) (hasPower (by decide))
    exact hpart.narrow (hasPower (by decide))

end Direction

end VirtualPad
