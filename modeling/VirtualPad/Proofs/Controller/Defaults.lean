import Mathlib.Tactic.SplitIfs
import VirtualPad.Proofs.Controller.Run
import VirtualPad.Proofs.Mapper.Receive

/-!
# Default properties

By default an axis has no deadzone, does not saturate before the end of its travel, and is presented
in its native range. The negative half of the travel is longer by one than the positive half, and
the middle of the range is rounded, but each half is stretched onto itself (`apply_default`). As a
mapping ends with bringing every axis into the native range, a controller with default properties
presents what its mapper makes of the gamepad (`shown_default`).
-/

namespace VirtualPad

variable {V : Type}

namespace AxisProperties

theorem interpolate_self (position : Int) {span : Int} (h : 0 < span) :
    interpolate position span span = position :=
  roundDiv_mul_self position h

theorem apply_default {value : Int} (h : InNativeRange value) :
    ({} : AxisProperties).apply value = value := by
  obtain ⟨hmin, hmax⟩ := h
  have hsn : cutoff axisMin axisPropertyMax = axisMin := by decide
  have hdn : cutoff axisMin 0 = 0 := by decide
  have hdp : cutoff axisMax 0 = 0 := by decide
  have hsp : cutoff axisMax axisPropertyMax = axisMax := by decide
  have hneutral : neutral {} = 0 := by decide
  have hlow : Int32.toInt (-32768) = axisMin := by decide
  have hhigh : Int32.toInt 32767 = axisMax := by decide
  simp only [apply, Bool.not_true, Bool.false_eq_true, if_false, hsn, hdn, hdp, hsp, hneutral, hlow,
    hhigh]
  -- Below and above the travel there is nothing, and the deadzone is the centre alone.
  split_ifs with h₁ h₂ h₃
  · omega
  · rw [interpolate_self _ (by decide)]
    omega
  · omega
  · rw [Int.sub_zero, Int.sub_zero, interpolate_self _ (by decide)]
    omega

end AxisProperties

namespace VirtualState

theorem inNativeRange_clamped (s : VirtualState) (a : Axis) : InNativeRange (s.clamped.axis a) := by
  have haxis : s.clamped.axis a = max axisMin (min axisMax (s.axis a)) := PerAxis.get_map _ _ a
  have hends : axisMin ≤ axisMax := by decide
  rw [haxis, InNativeRange]
  omega

theorem present_default {s : VirtualState} (h : ∀ a, InNativeRange (s.axis a))
    (caps : Capabilities) : s.present caps (.const {}) = s := by
  refine ext_elements (fun a => ?_) (fun b => rfl) fun d => rfl
  show (PerAxis.ofFn _).get a = _
  rw [PerAxis.get_ofFn, PerAxis.get_const, AxisProperties.apply_default (h a), ite_self]

end VirtualState

namespace Controller

/-- The states that a controller presents after each operation of a run. -/
def shown (c : Controller) : List (Operation V) → List VirtualState
  | [] => []
  | op :: ops => (c.perform op).state :: (c.perform op).shown ops

theorem refresh_default {c : Controller} (h : c.properties = .const {}) (next now : UInt32)
    (pad : PadState) :
    (c.perform (.refresh next now pad : Operation V)).state =
      (c.mapper.mapState pad c.player.toUInt32).state := by
  rw [perform, refresh]
  dsimp only
  rw [refreshVirtual_eq]
  show c.present _ = _
  rw [present, h]
  exact VirtualState.present_default (fun a => VirtualState.inNativeRange_clamped _ a) _

theorem properties_refresh (c : Controller) (next now : UInt32) (pad : PadState) :
    (c.perform (.refresh next now pad : Operation V)).properties = c.properties := by
  rw [perform, refresh]
  dsimp only
  rw [refreshVirtual_eq]

/-- A controller with default properties that is refreshed over and over presents after each refresh
what its mapper makes of that snapshot of the gamepad, whether the gamepad is connected or not. -/
theorem shown_default {c : Controller} (h : c.properties = .const {})
    (polls : List (UInt32 × UInt32 × PadState)) :
    c.shown (polls.map fun (next, now, pad) => (.refresh next now pad : Operation V)) =
      polls.map fun (_, _, pad) => (c.mapper.mapState pad c.player.toUInt32).state := by
  induction polls generalizing c with
  | nil => rfl
  | cons poll polls ih =>
    obtain ⟨next, now, pad⟩ := poll
    obtain ⟨hmapper, hplayer⟩ := c.mapper_perform (.refresh next now pad : Operation V)
    have hrest := ih ((c.properties_refresh (V := V) next now pad).trans h)
    rw [hmapper, hplayer] at hrest
    rw [List.map_cons, List.map_cons, shown, refresh_default h, hrest]

/-- Two sticks that share an axis: at both ends of the travel, next to the middle, added up beyond
the end, and after the gamepad is gone. -/
theorem shown_default_extremes :
    let mapper : Mapper :=
      ⟨"", (ElementMap.empty.set .stickLeftX (.axis .x .both)).set .stickRightX (.axis .x .both),
        .disabled⟩
    let pads : List PadState :=
      [{ status := .ok, leftX := 32767 }, { status := .ok, leftX := -32768 },
        { status := .ok, leftX := 1 }, { status := .ok, leftX := -1 },
        { status := .ok, leftX := 32767, rightX := 9 }, { status := .notConnected, leftX := 5 }]
    let c := Controller.create 1 0 mapper false
    let shown := c.shown (pads.map fun pad => (.refresh 7 10 pad : Operation Unit))
    shown = pads.map (fun pad => (mapper.mapState pad 0).state) ∧
      shown.map (·.axis .x) = [32767, -32768, 1, -1, 32767, 0] := by
  intro mapper pads c shown
  have hshown : shown = pads.map fun pad => (mapper.mapState pad 0).state := by
    have h := shown_default (V := Unit) (c := c) rfl (pads.map fun pad => (7, 10, pad))
    rwa [List.map_map, List.map_map] at h
  refine ⟨hshown, ?_⟩
  rw [hshown]
  decide +kernel

end Controller

end VirtualPad
