import Mathlib.Algebra.BigOperators.Group.List.Basic
import Mathlib.Algebra.Order.BigOperators.Group.List
import Mathlib.Algebra.Ring.Int.Defs
import VirtualPad.Mapper.Basic
import VirtualPad.Proofs.ElementMapper.Leaves

/-!
# What received contributions come to

Contributions do not get in each other's way: what a state shows after receiving some of them is
said element by element, and the order in which they came is not part of it. An axis gains the sum
of its amounts (`axis_receiveAll`), and buttons and components of the hat are pressed if one of the
contributions presses them.

No reading adds more to an axis than the axis can show (`axisValue_mem`, `digitalAxisValue_mem`), so
the number of amounts bounds their sum (`sum_bounds`).
-/

namespace VirtualPad

/-- What a contribution adds to an axis. -/
def Contribution.amount (a : Axis) : Contribution → Int
  | .axis b v => if b = a then v else 0
  | _ => 0

namespace VirtualState

theorem receiveAll_cons (s : VirtualState) (c : Contribution) (cs : List Contribution) :
    s.receiveAll (c :: cs) = (s.receive c).receiveAll cs := rfl

theorem axis_receive (s : VirtualState) (c : Contribution) (a : Axis) :
    (s.receive c).axis a = s.axis a + c.amount a := by
  cases c with
  | axis b v =>
    simp only [receive, axis_addAxis, Contribution.amount, eq_comm]
  | _ => simp [receive, Contribution.amount, axis, mergeButton, mergePov]

theorem axis_receiveAll (s : VirtualState) (cs : List Contribution) (a : Axis) :
    (s.receiveAll cs).axis a = s.axis a + (cs.map (Contribution.amount a)).sum := by
  induction cs generalizing s with
  | nil => simp [receiveAll]
  | cons c cs ih =>
    rw [receiveAll_cons, ih, axis_receive, List.map_cons, List.sum_cons, Int.add_assoc]

theorem button_receiveAll (s : VirtualState) (cs : List Contribution) (b : Button) :
    (s.receiveAll cs).button b = true ↔ s.button b = true ∨ .button b true ∈ cs := by
  induction cs generalizing s with
  | nil => simp [receiveAll]
  | cons c cs ih =>
    rw [receiveAll_cons, ih, List.mem_cons]
    cases c with
    | button b' pressed =>
      simp only [receive, button_mergeButton, Bool.or_eq_true, Bool.and_eq_true,
        decide_eq_true_eq, Contribution.button.injEq, eq_comm (a := true), or_assoc]
    | _ => simp [receive, addAxis, mergePov, button]

theorem pov_receiveAll (s : VirtualState) (cs : List Contribution) (d : PovDirection) :
    (s.receiveAll cs).pov.isPressed d = true ↔ s.pov.isPressed d = true ∨ .pov d true ∈ cs := by
  induction cs generalizing s with
  | nil => simp [receiveAll]
  | cons c cs ih =>
    rw [receiveAll_cons, ih, List.mem_cons]
    cases c with
    | pov d' pressed =>
      simp only [receive, mergePov, PovState.isPressed_merge, Bool.or_eq_true, Bool.and_eq_true,
        decide_eq_true_eq, Contribution.pov.injEq, eq_comm (a := true), or_assoc]
    | _ => simp [receive, addAxis, mergeButton]

end VirtualState

/-! ## What one reading adds -/

/-- The values that an axis can show. -/
def InNativeRange (v : Int) : Prop := axisMin ≤ v ∧ v ≤ axisMax

theorem stickAxisValue_mem (v : Int16) (d : AxisDirection) :
    InNativeRange (stickAxisValue v d) := by
  have hlow := Int16.le_toInt v
  have hhigh := Int16.toInt_le v
  have hmin : Int16.minValue.toInt = axisMin := by decide
  have hmax : Int16.maxValue.toInt = axisMax := by decide
  cases d <;> simp only [InNativeRange, stickAxisValue, axisMin, axisMax] at * <;> omega

theorem buttonAxisValue_mem (p : Bool) (d : AxisDirection) :
    InNativeRange (buttonAxisValue p d) := by
  cases p <;> cases d <;> exact ⟨by decide, by decide⟩

theorem triggerAxisValue_mem (v : UInt8) (d : AxisDirection) :
    InNativeRange (triggerAxisValue v d) := by
  have hv := v.toNat_lt
  cases d with
  | both =>
    simp only [InNativeRange, triggerAxisValue, axisMin, axisMax, triggerMax]
    rw [Int.tdiv_eq_ediv_of_nonneg (by omega)]
    omega
  | positive =>
    simp only [InNativeRange, triggerAxisValue, axisMin, axisMax, triggerMax]
    rw [Int.tdiv_eq_ediv_of_nonneg (by omega)]
    omega
  | negative =>
    -- Division truncates toward zero, so the sign comes out first.
    have hneg : (v.toNat * axisMin : Int) = -(v.toNat * 32768 : Int) := by
      simp only [axisMin]
      omega
    simp only [InNativeRange, triggerAxisValue]
    rw [hneg, Int.neg_tdiv, Int.tdiv_eq_ediv_of_nonneg (by omega)]
    simp only [axisMin, axisMax, triggerMax]
    omega

theorem inNativeRange_zero : InNativeRange 0 := ⟨by decide, by decide⟩

namespace Reading

theorem axisValue_mem (r : Reading) (d : AxisDirection) : InNativeRange (r.axisValue d) := by
  cases r with
  | stick v => exact stickAxisValue_mem v d
  | button p => exact buttonAxisValue_mem p d
  | trigger v => exact triggerAxisValue_mem v d
  | rest => exact inNativeRange_zero

theorem digitalAxisValue_mem (r : Reading) (d : AxisDirection) :
    InNativeRange (r.digitalAxisValue d) := by
  cases r with
  | stick v =>
    simp only [digitalAxisValue]
    split
    · split
      · exact ⟨by decide, by decide⟩
      · split
        · exact ⟨by decide, by decide⟩
        · exact inNativeRange_zero
    · split
      · exact buttonAxisValue_mem true _
      · exact inNativeRange_zero
  | button p => exact buttonAxisValue_mem p d
  | trigger v => exact buttonAxisValue_mem _ d
  | rest => exact inNativeRange_zero

end Reading

/-- A contribution is worth no more than an axis can show. -/
def Contribution.InRange : Contribution → Prop
  | .axis _ v => InNativeRange v
  | .desktop (.mouseAxis _ v) => InNativeRange v
  | _ => True

theorem ElementMapper.Leaf.contribution_inRange (l : ElementMapper.Leaf) (r : Reading) :
    (l.contribution r).InRange := by
  cases l with
  | axis b d => exact r.axisValue_mem d
  | digitalAxis b d => exact r.digitalAxisValue_mem d
  | mouseAxis b d => exact r.axisValue_mem d
  | _ => trivial

theorem Contribution.InRange.amount {c : Contribution} (h : c.InRange) (a : Axis) :
    InNativeRange (c.amount a) := by
  cases c with
  | axis b v =>
    rw [Contribution.amount]
    split
    · exact h
    · exact inNativeRange_zero
  | _ => exact inNativeRange_zero

/-! ## What contributions add together -/

theorem sum_bounds {vs : List Int} (h : ∀ v ∈ vs, InNativeRange v) :
    vs.length * axisMin ≤ vs.sum ∧ vs.sum ≤ vs.length * axisMax := by
  have hlow := List.card_nsmul_le_sum vs axisMin fun v hv => (h v hv).1
  have hhigh := List.sum_le_card_nsmul vs axisMax fun v hv => (h v hv).2
  rw [Int.nsmul_eq_mul] at hlow hhigh
  exact ⟨hlow, hhigh⟩

/-! ## What a mapper contributes -/

namespace Mapper

variable (m : Mapper) (reading : Slot → Reading)

theorem snd_contributions :
    (m.contributions reading).map (·.2) =
      Slot.all.flatMap fun s => (m.elements s).contributions (reading s) := by
  simp [contributions, List.map_flatMap, Function.comp_def]

theorem mem_snd_contributions {c : Contribution} :
    c ∈ (m.contributions reading).map (·.2) ↔
      ∃ s, c ∈ (m.elements s).contributions (reading s) := by
  rw [snd_contributions, List.mem_flatMap]
  exact ⟨fun ⟨s, _, hc⟩ => ⟨s, hc⟩, fun ⟨s, hc⟩ => ⟨s, s.mem_all, hc⟩⟩

theorem inRange_of_mem {c : Slot × Contribution} (hc : c ∈ m.contributions reading) :
    c.2.InRange := by
  obtain ⟨s, hs⟩ := (mem_snd_contributions m reading).1 (List.mem_map_of_mem hc)
  obtain ⟨x, -, hx⟩ := ElementMapper.mem_contributions.1 hs
  rw [← hx]
  exact x.1.contribution_inRange x.2

end Mapper

end VirtualPad
