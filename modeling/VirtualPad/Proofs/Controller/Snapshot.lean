import Mathlib.Data.List.Induction
import VirtualPad.Proofs.Controller.Run

/-!
# The presented state along a run

A controller presents its raw state seen through its properties, and the raw state is that of the
latest refresh (`Coherent.perform`). Refreshes and setters both write the presented state, each in
its own way, and a refresh that changes nothing does not write it at all; the invariant is what
keeps them together. So refreshing again with the raw state of the latest refresh does nothing,
whatever was done in between (`run_present`).
-/

namespace VirtualPad.Controller

variable {V : Type}

/-- The raw state of the latest refresh, neutral before any. -/
def lastRaw (mapper : Mapper) (player : UInt8) (ops : List (Operation V)) : VirtualState :=
  ((ops.filterMap (rawOf? mapper player)).getLast?).getD .neutral

/-- The controller holds a raw state and presents it as its properties say. -/
structure Coherent (c : Controller) (raw : VirtualState) : Prop where
  raw_eq : c.raw = raw
  state_eq : c.state = c.present raw

theorem present_congr {c d : Controller} (hm : d.mapper = c.mapper)
    (hp : d.properties = c.properties) (s : VirtualState) : d.present s = c.present s := by
  rw [present, present, capabilities, capabilities, hm, hp]

theorem Coherent.create (id : UInt64) (player : UInt8) (mapper : Mapper) (canRegister : Bool) :
    (create id player mapper canRegister).Coherent .neutral := ⟨rfl, rfl⟩

theorem Coherent.refreshVirtual (c : Controller) (next now : UInt32) (raw : VirtualState) :
    (c.refreshVirtual next now raw).controller.Coherent raw := by
  rw [refreshVirtual_eq]
  exact ⟨rfl, rfl⟩

theorem Coherent.updateProperties {c : Controller} {raw : VirtualState} (h : c.Coherent raw)
    (scope : AxisScope) (update : AxisProperties → AxisProperties) :
    (c.updateProperties scope update).Coherent raw := by
  obtain ⟨rfl, -⟩ := h
  exact ⟨rfl, rfl⟩

theorem Coherent.of_sameView {c d : Controller} {raw : VirtualState} (h : c.Coherent raw)
    (hv : c.SameView d) : d.Coherent raw := by
  refine ⟨hv.raw.trans h.raw_eq, ?_⟩
  rw [hv.state, present_congr hv.mapper hv.properties]
  exact h.state_eq

theorem Coherent.perform {c : Controller} {raw : VirtualState} (h : c.Coherent raw)
    (op : Operation V) :
    (c.perform op).Coherent ((rawOf? c.mapper c.player op).getD raw) := by
  rcases c.perform_cases op with ⟨next, now, raw', hr, hop⟩ | ⟨hr, ⟨scope, update, hop⟩ | hv⟩
  · rw [hr, hop]
    exact .refreshVirtual c next now raw'
  · rw [hr, hop]
    exact h.updateProperties scope update
  · rw [hr]
    exact h.of_sameView hv

theorem lastRaw_concat (mapper : Mapper) (player : UInt8) (ops : List (Operation V))
    (op : Operation V) :
    lastRaw mapper player (ops ++ [op]) =
      (rawOf? mapper player op).getD (lastRaw mapper player ops) := by
  rw [lastRaw, List.filterMap_append]
  cases h : rawOf? mapper player op with
  | none => simp [h, lastRaw]
  | some raw => simp [h]

theorem coherent_run (id : UInt64) (player : UInt8) (mapper : Mapper) (canRegister : Bool)
    (ops : List (Operation V)) :
    ((Controller.create id player mapper canRegister).run ops).Coherent
      (lastRaw mapper player ops) := by
  induction ops using List.reverseRecOn with
  | nil => exact .create id player mapper canRegister
  | append_singleton ops op ih =>
    obtain ⟨hm, hp⟩ := mapper_run (.create id player mapper canRegister) ops
    have h := ih.perform op
    rw [hm, hp] at h
    rw [run_concat, lastRaw_concat]
    exact h

theorem Coherent.refresh_again {c : Controller} {raw : VirtualState} (h : c.Coherent raw)
    (next now : UInt32) : c.refreshVirtual next now raw = ⟨c, next, false, none⟩ := by
  obtain ⟨rfl, hs⟩ := h
  rw [Controller.refreshVirtual, if_pos hs.symm]

/-- After any run from a new controller, the presented state is the raw state of the latest refresh,
with the current properties applied to exactly the axes that the mapper reports, and refreshing
again with that raw state changes, buffers and signals nothing. A refresh with a snapshot of the
gamepad is one with the state that it is mapped to. -/
theorem run_present (id : UInt64) (player : UInt8) (mapper : Mapper) (canRegister : Bool)
    (ops : List (Operation V)) :
    let c := (Controller.create id player mapper canRegister).run ops
    let raw := lastRaw mapper player ops
    (∀ a, c.state.axis a =
      if mapper.capabilities.hasAxis a then (c.properties.get a).apply (raw.axis a)
      else raw.axis a) ∧
    c.state.buttons = raw.buttons ∧ c.state.pov = raw.pov ∧
    (∀ next now, c.refreshVirtual next now raw = ⟨c, next, false, none⟩) ∧
    ∀ next now pad, (c.refresh next now pad).1 =
      c.refreshVirtual next now (mapper.mapState pad player.toUInt32).state := by
  intro c raw
  have h : c.Coherent raw := coherent_run id player mapper canRegister ops
  obtain ⟨hm, hp⟩ := mapper_run (.create id player mapper canRegister) ops
  refine ⟨?_, ?_, ?_, h.refresh_again, ?_⟩
  · intro a
    rw [h.state_eq, present, capabilities, hm]
    exact PerAxis.get_ofFn _ a
  · rw [h.state_eq]
    rfl
  · rw [h.state_eq]
    rfl
  · intro next now pad
    rw [refresh, hm, hp]
    rfl

end VirtualPad.Controller
