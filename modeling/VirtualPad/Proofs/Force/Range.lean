import Mathlib.Data.List.Induction
import VirtualPad.Proofs.Force.Playback
import VirtualPad.Proofs.Force.Projection
import VirtualPad.Proofs.Number.Exact

/-!
# The range of forces

A tick clamps every component to the range of magnitudes, which leaves one thing to go wrong: a
component that is not a number stays so. Effects made by a program come to that in one way only. The
setter of Cartesian coordinates takes coordinates that are not finite, and a direction with such a
component makes forces that are not numbers.
-/

namespace VirtualPad

open Scalar Precision RealValued
open LawfulScalar (hasPower)

variable {V W : Type} [Scalar V] [Scalar W] [Precision V W]

namespace Device

theorem mem_of_effects_performAll {d : Device V} {calls : List (DeviceCall V)} {id : UInt32}
    {e : Effect V} (h : (d.performAll calls).effects.get? id = some e) :
    d.effects.get? id = some e ∨ .store e ∈ calls := by
  induction calls generalizing d with
  | nil => exact .inl h
  | cons x calls ih =>
    rcases ih h with h | h
    · rw [get?_effects_perform] at h
      cases x with
      | store e' =>
        dsimp only at h
        split at h
        · obtain rfl := Option.some.inj h
          exact .inr (List.mem_cons_self ..)
        · exact .inl h
      | remove other =>
        dsimp only at h
        split at h
        · cases h
        · exact .inl h
      | _ => exact .inl h
    · exact .inr (List.mem_cons_of_mem _ h)

theorem mem_of_effects_run {calls : List (DeviceCall V)} {id : UInt32} {e : Effect V}
    (h : (run calls : Device V).effects.get? id = some e) : .store e ∈ calls := by
  rcases mem_of_effects_performAll h with h | h
  · cases h
  · exact h

omit [Scalar V] in
theorem effects_of_ongoing? {d : Device V} {now : UInt32} {entry : UInt32 × UInt32}
    {x : Effect V × UInt32} (h : d.ongoing? now entry = some x) :
    d.effects.get? entry.1 = some x.1 := by
  unfold ongoing? at h
  split at h
  · cases h
  · rename_i e he
    split at h
    · cases h
    · obtain rfl := Option.some.inj h
      exact he

end Device

/-! ## Every component is in range or not a number -/

theorem Device.tick_within_or_isNaN [OrderedScalar V]
    (hbounds : le (-magnitudeMax) (magnitudeMax : V) = true) (d : Device V) (now : UInt32)
    (a : Axis) :
    within (-magnitudeMax) magnitudeMax ((d.tick now).1.get a) = true ∨
      isNaN ((d.tick now).1.get a) = true := by
  rw [tick, PerAxis.get_map]
  exact within_clamp_or_isNaN hbounds

/-- In single precision that takes no assumption about arithmetic. -/
theorem Device.tick_float32 (d : Device Float32) (now : UInt32) (a : Axis) :
    within (-magnitudeMax) magnitudeMax ((d.tick now).1.get a) = true ∨
      isNaN ((d.tick now).1.get a) = true :=
  tick_within_or_isNaN (by decide +kernel) d now a

/-! ## Finite directions make numbers -/

section

variable [RealValued V] [LawfulScalar V]

theorem bounded_deposit {l : List (Axis × V)} (hl : ∀ x ∈ l, Bounded 50 x.2) {total : Forces V}
    {j : ℤ} (hj : 50 ≤ j ∧ j + l.length ≤ 100) (ht : ∀ a, Bounded j (total.get a)) (a : Axis) :
    Bounded (j + l.length)
      ((l.foldl (fun total (a, v) => total.set a (total.get a + v)) total).get a) := by
  -- Each deposit costs one power of two, on whatever axis it lands.
  induction l generalizing total j with
  | nil => exact (ht a).mono (by simp)
  | cons x l ih =>
    obtain ⟨b, v⟩ := x
    rw [List.length_cons, Nat.cast_succ] at hj ⊢
    have hv : Bounded 50 v := hl (b, v) (List.mem_cons_self ..)
    have hstep (c : Axis) : Bounded (j + 1) ((total.set b (total.get b + v)).get c) := by
      rw [PerAxis.get_set]
      split
      · exact (ht b).add hv le_rfl (by omega) (hasPower (by omega))
      · exact (ht c).mono (by omega)
    have hrest := ih (fun y hy => hl y (List.mem_cons_of_mem _ hy)) (j := j + 1) (by omega) hstep
    exact hrest.mono (by omega)

theorem isNaN_addForces {l : List (Effect V × UInt32)} [RealValued W] [LawfulScalar W]
    (hl : ∀ x ∈ l, ∀ a, (value? ((x.1.forces x.2).get a)).isSome = true) {total : Forces V}
    (ht : ∀ a, isNaN (total.get a) = false) (a : Axis) :
    isNaN ((l.foldl (fun total (e, time) => Device.addForces total (e.forces time)) total).get a) =
      false := by
  induction l generalizing total with
  | nil => exact ht a
  | cons x l ih =>
    refine ih (fun y hy => hl y (List.mem_cons_of_mem _ hy)) fun b => ?_
    show isNaN ((Device.addForces total (x.1.forces x.2)).get b) = false
    rw [Device.addForces, PerAxis.get_ofFn]
    exact LawfulScalar.isNaN_add (ht b) (hl x (List.mem_cons_self ..) b)

variable [RealValued W] [LawfulScalar W] [LawfulPrecision V W]

theorem Effect.bounded_forces {e : Effect V} (he : e.Sound) (hd : e.direction.Regular)
    (time : UInt32) (a : Axis) : Bounded 53 ((e.forces time).get a) := by
  obtain ⟨hproject, hlength⟩ := hd.bounded_project (W := W) (bounded_magnitude he time)
  unfold forces
  dsimp only
  split
  · rw [PerAxis.get_const]
    exact bounded_zero (by decide)
  · have hzip : (e.axes.zip (e.direction.project (e.magnitude time))).length ≤ 3 := by
      rw [List.length_zip]
      exact (Nat.min_le_right ..).trans hlength
    refine (bounded_deposit (j := 50) (fun x hx => ?_) (by omega) (fun b => ?_) a).mono (by omega)
    · exact hproject _ (List.of_mem_zip hx).2
    · rw [PerAxis.get_const]
      exact bounded_zero (by decide)

namespace Device

/-- After any calls of a new device, each with an effect that a program can have made, every
component of a tick is in the range of magnitudes or not a number. It is in the range if the
directions that were set in Cartesian coordinates have finite components. -/
theorem run_within (calls : List (DeviceCall V)) (hmade : ∀ e, .store e ∈ calls → e.Made)
    (now : UInt32) (a : Axis) :
    let component := ((run calls : Device V).tick now).1.get a
    (within (-magnitudeMax) magnitudeMax component = true ∨ isNaN component = true) ∧
      ((∀ e, .store e ∈ calls → e.direction.system = .cartesian →
          ∀ c ∈ e.direction.components, (value? c).isSome = true) →
        within (-magnitudeMax) magnitudeMax component = true) := by
  intro component
  refine ⟨tick_within_or_isNaN neg_magnitudeMax_le _ now a, fun hfinite => ?_⟩
  simp only [component, tick, PerAxis.get_map]
  refine within_clamp neg_magnitudeMax_le
    (isNaN_addForces (W := W) (fun x hx b => ?_) (fun b => ?_) a)
  · obtain ⟨entry, -, hentry⟩ := List.mem_filterMap.mp hx
    have hcall := mem_of_effects_run (effects_of_ongoing? hentry)
    have hsound := (hmade _ hcall).sound
    have hregular := hsound.direction.regular (hfinite _ hcall)
    exact (Effect.bounded_forces hsound hregular x.2 b).isSome
  · rw [PerAxis.get_const]
    exact isNaN_of_isSome (bounded_zero (k := 0) (by decide)).isSome

end Device

end

namespace Device

theorem run_within_slanted :
    let e : Effect Exact :=
      { id := 1, kind := .constant magnitudeMax, duration := some 100, samplePeriod := 1,
        gain := gainMax, envelope := none, direction := ⟨[ofWord 3, ofWord 4], .cartesian⟩,
        axes := [.x, .y] }
    e.Made ∧
      within (-magnitudeMax) magnitudeMax
        (((run [.store e, .start 1 0] : Device Exact).tick 10).1.get .y) = true := by
  intro e
  have hmade : e.Made := by
    have hkind : (EffectKind.constant (magnitudeMax : Exact)).check = .ok () :=
      if_pos ((Bool.and_eq_true ..).mpr ⟨neg_magnitudeMax_le, decide_eq_true le_rfl⟩)
    have hnonzero : eq (ofWord 3 : Exact) zero = false :=
      decide_eq_false (by simp [ofWord, zero])
    have hdirection : Direction.ofCoordinates .cartesian [(ofWord 3 : Exact), ofWord 4] =
        .ok ⟨[ofWord 3, ofWord 4], .cartesian⟩ := by
      simp [Direction.ofCoordinates, Direction.set, Direction.setCartesian, directionAxisLimit,
        hnonzero]
    refine ⟨1, .constant magnitudeMax, [.duration 100, .axes [.x, .y],
      .direction .cartesian [ofWord 3, ofWord 4]],
      { e with duration := none, direction := .default, axes := [] }, ?_, ?_⟩
    · rw [Effect.create, hkind]
      rfl
    · simp only [Effect.changeAll, Effect.change, hdirection]
      rfl
  have hstored : ∀ e', DeviceCall.store e' ∈ [.store e, .start 1 0] → e' = e := by simp
  refine ⟨hmade, (run_within (W := Exact) [.store e, .start 1 0] ?_ 10 .y).2 ?_⟩
  · intro e' he
    rw [hstored e' he]
    exact hmade
  · exact fun _ _ _ _ _ => rfl

/-- A direction whose coordinate is not a number is accepted, and the force is not a number. -/
theorem tick_nan_direction :
    let e : Effect Float32 :=
      { id := 1, kind := .constant 1000, duration := some 100, samplePeriod := 1, gain := gainMax,
        envelope := none, direction := ⟨[0 / 0], .cartesian⟩, axes := [.x] }
    let d : Device Float32 := run [.store e, .start 1 0]
    (∃ new, Effect.create 1 (.constant 1000) = .ok new ∧
        new.changeAll [.duration 100, .axes [.x], .direction .cartesian [0 / 0]] = (e, .ok ())) ∧
      isNaN ((d.tick 10).1.get .x) = true := by
  intro e d
  exact ⟨⟨_, rfl, rfl⟩, by decide +kernel⟩

end Device

end VirtualPad
