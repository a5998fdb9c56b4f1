import VirtualPad.Mapper.Force
import VirtualPad.Proofs.Number.Exact
import VirtualPad.Proofs.Number.Quotient

/-!
# Motors follow the advertised axes

The capabilities of a mapper are worked out once, and the motors follow the forces at every tick.
Both go by the axes that the modes of the motors read, so forces on other axes than the advertised
ones make no difference (`motorOutput_congr`), and forces are advertised just when some motor is on
(`supportsForce_iff`).

A motor that is off stands still. That takes some arithmetic, because its force of zero is scaled
and rounded like any other; `LawfulMotor` has what this relies on. Of machine numbers it is shown
directly (`motorOutput_disabled_float32`).
-/

namespace VirtualPad

open Scalar Precision RealValued
open LawfulScalar (hasPower)

/-- Numbers that compare as the real numbers they stand for, and of which the whole ones become
motor values without rounding. -/
class LawfulMotor (α : Type) [Scalar α] [RealValued α] : Prop extends LawfulScalar α where
  lt_iff {x y : α} {a b : ℝ} : value? x = some a → value? y = some b → (lt x y = true ↔ a < b)
  toMotor {x : α} {n : ℤ} : value? x = some (n : ℝ) → toMotor x = UInt16.ofNat (min 65535 n.toNat)

instance : LawfulMotor Exact where
  lt_iff hx hy := by
    obtain rfl := Option.some.inj hx
    obtain rfl := Option.some.inj hy
    exact decide_eq_true_iff
  toMotor {x n} hx := by
    have hvalue : x.value = n := Option.some.inj hx
    change UInt16.ofNat (min 65535 (nearest x.value).toNat) = _
    rw [hvalue, nearest_intCast]

/-! ## Motor values of zero -/

section

variable {α : Type} [Scalar α] [RealValued α] {x y : α} {k : ℤ}

section

variable [LawfulScalar α]

theorem Rounds.value_eq_zero (h : Rounds 0 x) : value? x = some 0 := by
  obtain ⟨s, hs, -, ⟨hnonneg, hnonpos⟩, -⟩ := h 0 (hasPower (by decide)) (by simp)
  rw [hs, le_antisymm (hnonpos le_rfl) (hnonneg le_rfl)]

theorem value_mul_eq_zero (hx : value? x = some 0) (hy : Bounded k y) : value? (x * y) = some 0 := by
  obtain ⟨b, hb, -⟩ := hy
  have h := LawfulScalar.mul hx hb
  rw [zero_mul] at h
  exact h.value_eq_zero

theorem value_div_eq_zero (hx : value? x = some 0) (hy : Above k y) : value? (x / y) = some 0 := by
  obtain ⟨b, hb, hge⟩ := hy
  have h := LawfulScalar.div hx hb (ne_zero_of_two_zpow_le hge)
  rw [zero_div] at h
  exact h.value_eq_zero

theorem value_abs_eq_zero (hx : value? x = some 0) : value? (Scalar.abs x) = some 0 := by
  unfold Scalar.abs
  split
  · rw [LawfulScalar.neg hx, neg_zero]
  · exact hx

theorem value_round_eq_zero (hx : value? x = some 0) : value? (Scalar.round x) = some 0 := by
  obtain ⟨n, hn, hround⟩ := LawfulScalar.round hx
  have hzero : n = 0 := by
    rw [zero_sub, abs_neg, ← Int.cast_abs] at hn
    have hlt : ((|n| : ℤ) : ℝ) < 1 := by linarith
    exact Int.abs_lt_one_iff.mp (by exact_mod_cast hlt)
  rw [hzero, Int.cast_zero] at hround
  exact hround.value_eq_zero

end

theorem least_eq_left [LawfulMotor α] (hx : value? x = some 0) {b : ℝ} (hy : value? y = some b)
    (hb : 0 ≤ b) : least x y = x := by
  have hlt : ¬ lt y x = true := (LawfulMotor.lt_iff hy hx).not.mpr (not_lt.mpr hb)
  have hnumber : isNaN x = false := isNaN_of_isSome (by rw [hx]; rfl)
  rw [least, hnumber, if_neg Bool.false_ne_true, if_neg hlt]

end

variable {V W : Type} [Scalar V] [Scalar W] [Precision V W]

theorem get_motorOutput_disabled {m : Mapper} {motor : Actuator}
    (h : m.actuators motor = .disabled) (forces : Forces V) (gain : UInt32) :
    (m.motorOutput forces gain).get motor =
      motorValue (zero * (ofWord (min gain gainMax) / ofWord gainMax) : V) := by
  have hforce : (m.actuators motor).force forces = zero := by
    rw [h]
    rfl
  rw [Mapper.motorOutput, MotorOutput.get_ofFn, hforce]

section

variable [RealValued V] [RealValued W] [LawfulMotor V] [LawfulMotor W] [LawfulPrecision V W]

theorem motorValue_eq_zero {force : V} (h : value? force = some 0) : motorValue force = 0 := by
  obtain ⟨top, htop, hnonneg, -⟩ :
      ∃ s, value? (magnitudeMax : V) = some s ∧ 0 ≤ s ∧ _ := rounds_ofWord 10000
  have hscale : Above 13 (magnitudeMax : V) := above_ofWord (by decide) (by decide)
  have hpart : value? (least (Scalar.abs force) magnitudeMax / magnitudeMax) = some 0 := by
    rw [least_eq_left (value_abs_eq_zero h) htop hnonneg]
    exact value_div_eq_zero (value_abs_eq_zero h) hscale
  have hwide := value_mul_eq_zero (LawfulPrecision.widen hpart) (bounded_word (α := W) 65535)
  have hwhole : value? (Scalar.round (widen (least (Scalar.abs force) magnitudeMax / magnitudeMax) *
      ofWord 65535 : W)) = some ((0 : ℤ) : ℝ) := by
    rw [Int.cast_zero]
    exact value_round_eq_zero hwide
  exact LawfulMotor.toMotor hwhole

theorem motorOutput_disabled {m : Mapper} {motor : Actuator} (h : m.actuators motor = .disabled)
    (forces : Forces V) (gain : UInt32) : (m.motorOutput forces gain).get motor = 0 := by
  have hfraction : Bounded 19 (ofWord (min gain gainMax) / ofWord gainMax : V) :=
    (bounded_word _).div (k := 13) (above_ofWord (by decide) (by decide)) (by decide)
      (hasPower (by decide))
  -- A zero times a finite number is a zero again, of one sign or the other.
  rw [get_motorOutput_disabled h]
  exact motorValue_eq_zero (value_mul_eq_zero value_zero hfraction)

end

/-- Machine numbers are no exception. Their widening and rounding cannot be looked into, but are known
to leave zero as it is. -/
theorem motorOutput_disabled_float32 (hwiden : (widen (zero : Float32) : Float) = zero)
    (hround : Scalar.round (zero : Float) = zero) {m : Mapper} {motor : Actuator}
    (h : m.actuators motor = .disabled) (forces : Forces Float32) (gain : UInt32) :
    (m.motorOutput forces gain).get motor = 0 := by
  obtain ⟨sign, hzero⟩ := Floating.zero_mul_ofWord_div (min gain gainMax)
  have hpart : least (Scalar.abs (zero * (ofWord (min gain gainMax) / ofWord gainMax)))
      magnitudeMax / magnitudeMax = (zero : Float32) := by
    rw [hzero]
    cases sign with
    | positive => rfl
    | negative => rfl
  have hwhole : (zero * ofWord 65535 : Float) = zero := rfl
  rw [get_motorOutput_disabled h, motorValue, hpart, hwiden, hwhole, hround]
  decide +kernel

/-! ## Axes that are read -/

namespace ActuatorMode

theorem force_congr {mode : ActuatorMode} {forces forces' : Forces V}
    (h : ∀ a ∈ mode.sources, forces.get a = forces'.get a) :
    mode.force forces = mode.force forces' := by
  -- Both definitions look at the resolved mode.
  unfold sources at h
  unfold force
  cases hmode : mode.resolved with
  | disabled => rfl
  | standard => rfl
  | singleAxis a direction =>
    rw [hmode] at h
    have ha := h a (List.mem_singleton.mpr rfl)
    cases direction <;> simp only [ha]
  | magnitudeProjection a b =>
    rw [hmode] at h
    have ha := h a (List.mem_cons_self ..)
    have hb := h b (List.mem_cons_of_mem _ (List.mem_singleton.mpr rfl))
    simp only [ha, hb]

theorem sources_ne_nil_iff {mode : ActuatorMode} : mode.sources ≠ [] ↔ mode ≠ .disabled := by
  cases mode <;> simp [sources, resolved]

end ActuatorMode

namespace Mapper

variable {m : Mapper} {a : Axis}

theorem mem_forceSources : a ∈ m.forceSources ↔ ∃ motor, a ∈ (m.actuators motor).sources := by
  rw [forceSources, List.mem_flatMap]
  exact exists_congr fun motor => and_iff_right (by cases motor <;> decide)

theorem hasForceAxis_iff :
    m.capabilities.hasForceAxis a = true ↔ ∃ motor, a ∈ (m.actuators motor).sources := by
  rw [Capabilities.hasForceAxis, capabilities, PerAxis.get_ofFn, List.contains_iff_mem,
    mem_forceSources]

theorem hasAxis_of_hasForceAxis (h : m.capabilities.hasForceAxis a = true) :
    m.capabilities.hasAxis a = true := by
  have hread : m.forceSources.contains a = true := by
    rwa [List.contains_iff_mem, mem_forceSources, ← hasForceAxis_iff]
  rw [Capabilities.hasAxis, capabilities, PerAxis.get_ofFn, hread, Bool.or_true]

theorem supportsForce_iff :
    m.capabilities.supportsForce = true ↔ ∃ motor, m.actuators motor ≠ .disabled := by
  rw [Capabilities.supportsForce, List.any_eq_true]
  constructor
  · rintro ⟨a, -, h⟩
    obtain ⟨motor, ha⟩ := hasForceAxis_iff.mp h
    exact ⟨motor, ActuatorMode.sources_ne_nil_iff.mp (List.ne_nil_of_mem ha)⟩
  · rintro ⟨motor, hmotor⟩
    obtain ⟨a, ha⟩ := List.exists_mem_of_ne_nil _ (ActuatorMode.sources_ne_nil_iff.mpr hmotor)
    exact ⟨a, a.mem_all, hasForceAxis_iff.mpr ⟨motor, ha⟩⟩

/-- Forces that agree on the advertised axes move the motors alike. -/
theorem motorOutput_congr {forces forces' : Forces V}
    (h : ∀ a, m.capabilities.hasForceAxis a = true → forces.get a = forces'.get a) (gain : UInt32) :
    m.motorOutput forces gain = m.motorOutput forces' gain := by
  have hforce (motor : Actuator) :
      (m.actuators motor).force forces = (m.actuators motor).force forces' :=
    ActuatorMode.force_congr fun a ha => h a (hasForceAxis_iff.mpr ⟨motor, ha⟩)
  unfold motorOutput
  simp only [hforce]

/-- What is advertised is what the motors follow: only forces on the advertised axes count, all of
these axes are present, and there are any as soon as a motor is on. A motor that is off stands
still, whatever the forces and the gain. -/
theorem motorOutput_advertised (m : Mapper) :
    (∀ (forces forces' : Forces V) (gain : UInt32),
      (∀ a, m.capabilities.hasForceAxis a = true → forces.get a = forces'.get a) →
      m.motorOutput forces gain = m.motorOutput forces' gain) ∧
    (∀ a, m.capabilities.hasForceAxis a = true → m.capabilities.hasAxis a = true) ∧
    (m.capabilities.supportsForce = true ↔ ∃ motor, m.actuators motor ≠ .disabled) ∧
    ∀ [RealValued V] [RealValued W] [LawfulMotor V] [LawfulMotor W] [LawfulPrecision V W]
      (motor : Actuator), m.actuators motor = .disabled →
      ∀ (forces : Forces V) (gain : UInt32), (m.motorOutput forces gain).get motor = 0 :=
  ⟨fun _ _ gain h => motorOutput_congr h gain, fun _ => hasAxis_of_hasForceAxis, supportsForce_iff,
    fun _ h forces gain => motorOutput_disabled h forces gain⟩

/-- One motor follows one half of an axis: the force on another axis may change, and the other
motors stand still. -/
theorem motorOutput_advertised_one_axis :
    let m : Mapper := {
      name := "left"
      elements := .empty
      actuators := ActuatorMap.disabled.set .leftMotor (.singleAxis .z .positive) }
    let forces : Forces Exact := .const ⟨5000⟩
    m.motorOutput (forces.set .x ⟨-7⟩) 5000 = m.motorOutput forces 5000 ∧
    m.capabilities.hasForceAxis .z = true ∧ m.capabilities.hasAxis .z = true ∧
    m.capabilities.supportsForce = true ∧ m.actuators .rightMotor = .disabled ∧
    (m.motorOutput forces 5000).get .rightMotor = 0 := by
  intro m forces
  obtain ⟨hagree, haxis, hsupport, hoff⟩ := motorOutput_advertised (V := Exact) m
  have hz : m.capabilities.hasForceAxis .z = true := by decide
  refine ⟨hagree _ _ _ fun a ha => ?_, hz, haxis _ hz,
    hsupport.mpr ⟨.leftMotor, by decide⟩, rfl, hoff .rightMotor rfl forces 5000⟩
  refine forces.get_set_of_ne (a := .x) ?_ _
  rintro rfl
  exact absurd ha (by decide)

end Mapper

end VirtualPad
