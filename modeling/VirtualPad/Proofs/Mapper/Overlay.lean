import Mathlib.Data.List.Perm.Basic
import VirtualPad.Proofs.Mapper.Receive

/-!
# Contributions as overlays

What a tree contributes does not depend on the state that receives it. Receiving contributions is
the same as laying one fixed state over the receiving one, where amounts add up and presses
accumulate (`receiveAll_eq_overlay`). Overlays commute, so contributions may come in any order
(`receiveAll_perm`): neither the order of the children of a compound mapper, at whatever depth, nor
the order in which a mapper serves its slots can be seen in the state (`serve_order`).
-/

namespace VirtualPad

namespace VirtualState

/-- One state laid over another: amounts add up, presses accumulate. -/
def overlay (s d : VirtualState) : VirtualState where
  axes := .ofFn fun a => s.axis a + d.axis a
  buttons := .ofFn fun b => s.button b || d.button b
  pov :=
    { up := s.pov.up || d.pov.up
      down := s.pov.down || d.pov.down
      left := s.pov.left || d.pov.left
      right := s.pov.right || d.pov.right }

@[simp] theorem axis_overlay (s d : VirtualState) (a : Axis) :
    (s.overlay d).axis a = s.axis a + d.axis a := PerAxis.get_ofFn _ a

@[simp] theorem button_overlay (s d : VirtualState) (b : Button) :
    (s.overlay d).button b = (s.button b || d.button b) := by
  simp [overlay, button]

@[simp] theorem isPressed_overlay (s d : VirtualState) (p : PovDirection) :
    (s.overlay d).pov.isPressed p = (s.pov.isPressed p || d.pov.isPressed p) := by
  cases p <;> rfl

theorem overlay_right_comm (s d e : VirtualState) :
    (s.overlay d).overlay e = (s.overlay e).overlay d := by
  refine ext_elements ?_ ?_ ?_
  · intro a
    simp only [axis_overlay, Int.add_right_comm]
  · intro b
    simp only [button_overlay, Bool.or_right_comm]
  · intro p
    simp only [isPressed_overlay, Bool.or_right_comm]

/-! ## Receiving is laying over -/

/-- Contributions come to one state, and whoever receives them has it laid over. -/
theorem receiveAll_eq_overlay (s : VirtualState) (cs : List Contribution) :
    s.receiveAll cs = s.overlay (neutral.receiveAll cs) := by
  refine ext_elements ?_ ?_ ?_
  · intro a
    rw [axis_overlay, axis_receiveAll, axis_receiveAll, axis_neutral, Int.zero_add]
  · intro b
    rw [Bool.eq_iff_iff, button_overlay, Bool.or_eq_true, button_receiveAll, button_receiveAll]
    simp
  · intro p
    rw [Bool.eq_iff_iff, isPressed_overlay, Bool.or_eq_true, pov_receiveAll, pov_receiveAll]
    simp

theorem receiveAll_comm (s : VirtualState) (cs ds : List Contribution) :
    (s.receiveAll cs).receiveAll ds = (s.receiveAll ds).receiveAll cs := by
  rw [receiveAll_eq_overlay (s.receiveAll cs) ds, receiveAll_eq_overlay s cs,
    overlay_right_comm, ← receiveAll_eq_overlay s ds, ← receiveAll_eq_overlay]

instance : RightCommutative receive where
  right_comm s c d := s.receiveAll_comm [c] [d]

theorem receiveAll_perm {cs ds : List Contribution} (h : cs.Perm ds) (s : VirtualState) :
    s.receiveAll cs = s.receiveAll ds := h.foldl_eq s

theorem receiveAll_append (s : VirtualState) (cs ds : List Contribution) :
    s.receiveAll (cs ++ ds) = (s.receiveAll cs).receiveAll ds := List.foldl_append

end VirtualState

/-! ## The order of children -/

namespace ElementMapper

/-- The same tree, up to the order of the children of its compound nodes. -/
inductive Rearranged : ElementMapper → ElementMapper → Prop where
  | refl (t : ElementMapper) : Rearranged t t
  | trans {t u v : ElementMapper} : Rearranged t u → Rearranged u v → Rearranged t v
  | reorder {ts us : List ElementMapper} : ts.Perm us → Rearranged (.compound ts) (.compound us)
  | invert {t u : ElementMapper} : Rearranged t u → Rearranged (.invert t) (.invert u)
  | split {p q n o : ElementMapper} :
    Rearranged p q → Rearranged n o → Rearranged (.split p n) (.split q o)
  | child {t u : ElementMapper} (before after : List ElementMapper) : Rearranged t u →
    Rearranged (.compound (before ++ t :: after)) (.compound (before ++ u :: after))

theorem contributionsAll_eq (ts : List ElementMapper) (r : Reading) :
    contributionsAll ts r = ts.flatMap fun t => t.contributions r := by
  induction ts with
  | nil => rfl
  | cons t ts ih => rw [contributionsAll, List.flatMap_cons, ih]

theorem Rearranged.perm {t u : ElementMapper} (h : Rearranged t u) (r : Reading) :
    (t.contributions r).Perm (u.contributions r) := by
  induction h generalizing r with
  | refl t => exact .refl _
  | trans _ _ iht ihu => exact (iht r).trans (ihu r)
  | reorder h =>
    rw [contributions, contributions, contributionsAll_eq, contributionsAll_eq]
    exact h.flatMap_right _
  | invert _ ih =>
    rw [contributions, contributions]
    exact ih r.mirror
  | split _ _ ihp ihn =>
    have hp := ihp r.halves.positive
    have hn := ihn r.halves.negative
    rw [contributions, contributions]
    split
    · exact hp.append hn
    · exact hn.append hp
  | child before after _ ih =>
    rw [contributions, contributions, contributionsAll_eq, contributionsAll_eq,
      List.flatMap_append, List.flatMap_append, List.flatMap_cons, List.flatMap_cons]
    exact ((ih r).append_right _).append_left _

theorem Rearranged.receiveAll_eq {t u : ElementMapper} (h : Rearranged t u) (r : Reading)
    (s : VirtualState) : s.receiveAll (t.contributions r) = s.receiveAll (u.contributions r) :=
  VirtualState.receiveAll_perm (h.perm r) s

end ElementMapper

/-! ## The order of slots -/

namespace Mapper

/-- Let some slots contribute their readings to a state, one after the other. -/
def serve (m : Mapper) (reading : Slot → Reading) (slots : List Slot) (s : VirtualState) :
    VirtualState :=
  slots.foldl (fun s slot => s.receiveAll ((m.elements slot).contributions (reading slot))) s

theorem serve_eq_receiveAll (m : Mapper) (reading : Slot → Reading) (slots : List Slot)
    (s : VirtualState) :
    m.serve reading slots s =
      s.receiveAll (slots.flatMap fun slot => (m.elements slot).contributions (reading slot)) := by
  induction slots generalizing s with
  | nil => rfl
  | cons slot slots ih =>
    rw [List.flatMap_cons, VirtualState.receiveAll_append]
    exact ih _

theorem serve_all (m : Mapper) (reading : Slot → Reading) (source : UInt32) :
    (m.serve reading Slot.all .neutral).clamped = (m.mapReadings reading source).state := by
  rw [serve_eq_receiveAll, ← snd_contributions]
  rfl

theorem serve_perm (m : Mapper) (reading : Slot → Reading) {slots slots' : List Slot}
    (h : slots.Perm slots') (s : VirtualState) :
    m.serve reading slots s = m.serve reading slots' s := by
  rw [serve_eq_receiveAll, serve_eq_receiveAll]
  exact VirtualState.receiveAll_perm (h.flatMap_right _) s

theorem serve_congr {m n : Mapper} {reading : Slot → Reading}
    (h : ∀ slot, ElementMapper.Rearranged (m.elements slot) (n.elements slot))
    (slots : List Slot) (s : VirtualState) :
    m.serve reading slots s = n.serve reading slots s := by
  induction slots generalizing s with
  | nil => rfl
  | cons slot slots ih =>
    have hslot := (h slot).receiveAll_eq (reading slot) s
    exact (ih _).trans (congrArg (n.serve reading slots) hslot)

/-- What a tree makes of a reading is laid over any state in the same way: there is one state whose
amounts are added to every axis and whose presses are combined with every button and every component
of the hat. Sums are exact; a word of fixed width shows the same as long as no sum leaves it. So the
contributions of two trees commute, the children of compound nodes may be rearranged at any depth,
and a mapper may serve its slots in any order. -/
theorem serve_order :
    (∀ (t : ElementMapper) (r : Reading), ∃ d : VirtualState, ∀ s : VirtualState,
      let after := s.receiveAll (t.contributions r)
      (∀ a, after.axis a = s.axis a + d.axis a) ∧
      (∀ b, after.button b = (s.button b || d.button b)) ∧
      ∀ p, after.pov.isPressed p = (s.pov.isPressed p || d.pov.isPressed p)) ∧
    (∀ (t u : ElementMapper) (r q : Reading) (s : VirtualState),
      (s.receiveAll (t.contributions r)).receiveAll (u.contributions q) =
        (s.receiveAll (u.contributions q)).receiveAll (t.contributions r)) ∧
    (∀ t u : ElementMapper, t.Rearranged u → ∀ (r : Reading) (s : VirtualState),
      s.receiveAll (t.contributions r) = s.receiveAll (u.contributions r)) ∧
    ∀ m n : Mapper, (∀ slot, (m.elements slot).Rearranged (n.elements slot)) →
      ∀ slots : List Slot, slots.Perm Slot.all → ∀ (reading : Slot → Reading) (source : UInt32),
        (n.serve reading slots .neutral).clamped = (m.mapReadings reading source).state := by
  refine ⟨?_, ?_, fun t u h r s => h.receiveAll_eq r s, ?_⟩
  · intro t r
    refine ⟨VirtualState.neutral.receiveAll (t.contributions r), fun s => ?_⟩
    dsimp only
    rw [VirtualState.receiveAll_eq_overlay s]
    exact ⟨s.axis_overlay _, s.button_overlay _, s.isPressed_overlay _⟩
  · intro t u r q s
    exact s.receiveAll_comm _ _
  · intro m n h slots hslots reading source
    rw [n.serve_perm reading hslots, ← serve_congr h, serve_all]

/-- A tree with its children rearranged at two depths, and the slots served backwards. -/
theorem serve_order_reversed :
    let press : ElementMapper := .button ⟨0, by decide⟩
    let move : ElementMapper := .axis .x .both
    let halves : ElementMapper := .split (.digitalAxis .x .positive) .null
    let t : ElementMapper := .compound [move, .invert (.compound [press, .pov .up]), halves]
    let u : ElementMapper := .compound [halves, move, .invert (.compound [.pov .up, press])]
    let m : Mapper := ⟨"", (ElementMap.empty.set .stickLeftX t).set .buttonA press, .disabled⟩
    let n : Mapper := ⟨"", (ElementMap.empty.set .stickLeftX u).set .buttonA press, .disabled⟩
    let pad : PadState := { status := .ok, leftX := 20000 }
    t.Rearranged u ∧ t.contributions (.stick 20000) ≠ u.contributions (.stick 20000) ∧
      (n.serve (Slot.reading pad) Slot.all.reverse .neutral).clamped = (m.mapState pad 0).state ∧
      (m.mapState pad 0).state.axis .x = 32767 := by
  intro press move halves t u m n pad
  let raised : ElementMapper := .invert (.compound [.pov .up, press])
  have hinner : (.compound [press, .pov .up] : ElementMapper).Rearranged
      (.compound [.pov .up, press]) := .reorder (.swap _ _ [])
  have houter : ([move, raised] ++ [halves]).Perm ([halves] ++ [move, raised]) :=
    List.perm_append_comm
  have htu : t.Rearranged u :=
    .trans (.child [move] [halves] (.invert hinner)) (.reorder houter)
  have hslots : ∀ slot, (m.elements slot).Rearranged (n.elements slot) := by
    intro slot
    cases slot with
    | stickLeftX => exact htu
    | _ => exact .refl _
  obtain ⟨-, -, -, hserve⟩ := serve_order
  refine ⟨htu, by decide, ?_, by decide +kernel⟩
  exact hserve m n hslots Slot.all.reverse (List.reverse_perm Slot.all) (Slot.reading pad) 0

end Mapper

end VirtualPad
