import Mathlib.Algebra.Order.Group.Nat
import VirtualPad.Proofs.ElementMapper.Limits
import VirtualPad.Proofs.Mapper.Receive
import VirtualPad.Registry.Layouts

/-!
# What a mapping adds up to

A leaf is active if something other than rest arrives at it. Mapping a snapshot gives each axis the
exact sum of what the active leaves of all slots add to it, brought into range once, and presses a
button or a component of the hat if an active leaf for it is pressed.

The sum is exact in machine arithmetic too. A mapper's trees are built in or were read, so they keep
to the limits; twenty slots of at most 512 leaves, each worth at most 32768, stay far below what a
32-bit word holds, whatever the order in which the contributions come.
-/

namespace VirtualPad

namespace ElementMapper

/-- The trees that a mapper is given: trees that are read, and the trees of the built-in mappers. -/
inductive Available : ElementMapper → Prop
  | read {text : String} {t : ElementMapper} (h : parse text = .ok t) : t.Available
  | builtIn {m : Mapper} (h : m ∈ Layouts.all) (s : Slot) : (m.elements s).Available

/-- The leaves of a tree that a reading reaches as something other than rest. -/
def active (t : ElementMapper) (r : Reading) : List (Leaf × Reading) :=
  (t.served r).filter fun x => x.2 ≠ .rest

/-- What the active leaves of a tree add to an axis. -/
def gain (t : ElementMapper) (r : Reading) (a : Axis) : Int :=
  ((gathered (t.active r)).map (Contribution.amount a)).sum

/-! ## Active leaves are the ones that count -/

theorem amount_rest (l : Leaf) (a : Axis) : (l.contribution .rest).amount a = 0 := by
  cases l <;> simp [Leaf.contribution, Contribution.amount, Reading.axisValue,
    Reading.digitalAxisValue]

theorem sum_filter_rest (xs : List (Leaf × Reading)) (a : Axis) :
    ((gathered (xs.filter fun x => x.2 ≠ .rest)).map (Contribution.amount a)).sum
      = ((gathered xs).map (Contribution.amount a)).sum := by
  induction xs with
  | nil => rfl
  | cons x xs ih =>
    by_cases hx : x.2 = .rest
    · rw [List.filter_cons_of_neg (by simpa using hx), ih]
      simp [gathered, hx, amount_rest]
    · rw [List.filter_cons_of_pos (by simpa using hx)]
      simp only [gathered, List.map_cons, List.sum_cons] at ih ⊢
      rw [ih]

theorem sum_contributions (t : ElementMapper) (r : Reading) (a : Axis) :
    ((t.contributions r).map (Contribution.amount a)).sum = t.gain r a := by
  rw [((contributions_perm t r).map _).sum_eq, gain, active, sum_filter_rest]

theorem mem_active {t : ElementMapper} {r : Reading} {x : Leaf × Reading} :
    x ∈ t.active r ↔ x ∈ t.served r ∧ x.2 ≠ .rest := by
  simp [active]

theorem mem_contributions_active {t : ElementMapper} {r : Reading} {c : Contribution}
    (hc : ∀ l : Leaf, l.contribution .rest ≠ c) :
    c ∈ t.contributions r ↔ ∃ x ∈ t.active r, x.1.contribution x.2 = c := by
  rw [mem_contributions]
  constructor
  · rintro ⟨x, hx, h⟩
    have hne : x.2 ≠ .rest := by
      intro hrest
      rw [hrest] at h
      exact hc x.1 h
    exact ⟨x, mem_active.2 ⟨hx, hne⟩, h⟩
  · rintro ⟨x, hx, h⟩
    exact ⟨x, (mem_active.1 hx).1, h⟩

theorem Leaf.contribution_eq_button {l : Leaf} {r : Reading} {b : Button} :
    l.contribution r = .button b true ↔ l = .button b ∧ r.isPressed = true := by
  cases l <;> simp [Leaf.contribution]

theorem Leaf.contribution_eq_pov {l : Leaf} {r : Reading} {d : PovDirection} :
    l.contribution r = .pov d true ↔ l = .pov d ∧ r.isPressed = true := by
  cases l <;> simp [Leaf.contribution]

theorem button_mem_contributions {t : ElementMapper} {r : Reading} {b : Button} :
    .button b true ∈ t.contributions r ↔
      ∃ x ∈ t.active r, x.1 = .button b ∧ x.2.isPressed = true := by
  have hrest (l : Leaf) : l.contribution .rest ≠ .button b true := by
    simp [Leaf.contribution_eq_button, Reading.isPressed]
  simp only [mem_contributions_active hrest, Leaf.contribution_eq_button]

theorem pov_mem_contributions {t : ElementMapper} {r : Reading} {d : PovDirection} :
    .pov d true ∈ t.contributions r ↔
      ∃ x ∈ t.active r, x.1 = .pov d ∧ x.2.isPressed = true := by
  have hrest (l : Leaf) : l.contribution .rest ≠ .pov d true := by
    simp [Leaf.contribution_eq_pov, Reading.isPressed]
  simp only [mem_contributions_active hrest, Leaf.contribution_eq_pov]

/-! ## Trees that a mapper is given are small -/

/-- Whether a tree is a single node. -/
def isLeaf : ElementMapper → Bool
  | .invert _ => false
  | .split _ _ => false
  | .compound _ => false
  | _ => true

theorem fits_of_isLeaf {t : ElementMapper} (h : t.isLeaf = true) : t.Fits 1 := by
  cases t with
  | invert _ => cases h
  | split _ _ => cases h
  | compound _ => cases h
  | _ => exact ⟨by simp [KeepsLimit], by simp [depth]⟩

theorem isLeaf_builtIn : ∀ m ∈ Layouts.all, ∀ s ∈ Slot.all, (m.elements s).isLeaf = true := by
  decide

theorem Available.fits {t : ElementMapper} (h : t.Available) : t.Fits nestingLimit := by
  cases h with
  | read h =>
    obtain ⟨k, -, hk, hfits⟩ := fits_of_parse h
    exact hfits.mono hk
  | builtIn h s => exact (fits_of_isLeaf (isLeaf_builtIn _ h s s.mem_all)).mono (by decide)

/-- The most leaves that a tree within the limits has. -/
def leafLimit : Nat := childLimit ^ (nestingLimit - 1)

theorem Fits.length_leaves_le {t : ElementMapper} (h : t.Fits nestingLimit) :
    t.leaves.length ≤ leafLimit := by
  have hdepth : childLimit ^ t.depth ≤ childLimit ^ nestingLimit :=
    Nat.pow_le_pow_right (by decide) h.depth_le
  have hleaves := Nat.le_trans (length_leaves h.keepsLimit) hdepth
  exact Nat.le_of_mul_le_mul_left hleaves (by decide)

end ElementMapper

/-- The values that a signed 32-bit word holds. -/
def IsWord (v : Int) : Prop := -2 ^ 31 ≤ v ∧ v < 2 ^ 31

namespace Mapper

variable (m : Mapper) (reading : Slot → Reading)

theorem sum_snd_contributions (a : Axis) :
    (((m.contributions reading).map (·.2)).map (Contribution.amount a)).sum =
      (Slot.all.map fun s => (m.elements s).gain (reading s) a).sum := by
  rw [snd_contributions, List.map_flatMap, List.flatMap_def, List.sum_flatten, List.map_map]
  simp only [Function.comp_def, ElementMapper.sum_contributions]

/-! ## No sum on the way overflows -/

theorem length_contributions_le (h : ∀ s, (m.elements s).Fits ElementMapper.nestingLimit) :
    (m.contributions reading).length ≤ Slot.all.length * ElementMapper.leafLimit := by
  have hslot : ∀ n ∈ Slot.all.map (fun s => (m.elements s).leaves.length),
      n ≤ ElementMapper.leafLimit := by
    intro n hn
    obtain ⟨s, -, rfl⟩ := List.mem_map.1 hn
    exact (h s).length_leaves_le
  have hsum := List.sum_le_card_nsmul _ _ hslot
  rw [List.length_map] at hsum
  rw [contributions, List.length_flatMap]
  simpa [ElementMapper.length_contributions] using hsum

/-- Contributions that are in range and not too many never take an axis out of a word. -/
theorem axis_receiveAll_isWord {cs : List Contribution} (a : Axis)
    (hcs : ∀ c ∈ cs, c.InRange)
    (hlength : cs.length ≤ Slot.all.length * ElementMapper.leafLimit) :
    IsWord ((VirtualState.neutral.receiveAll cs).axis a) := by
  have hrange : ∀ v ∈ cs.map (Contribution.amount a), InNativeRange v := by
    intro v hv
    obtain ⟨c, hc, rfl⟩ := List.mem_map.1 hv
    exact (hcs c hc).amount a
  have hsum := sum_bounds hrange
  have hlimit : Slot.all.length * ElementMapper.leafLimit = 10240 := by decide
  rw [List.length_map] at hsum
  rw [VirtualState.axis_receiveAll, VirtualState.axis_neutral]
  simp only [axisMin, axisMax] at hsum
  -- 10240 amounts of at most 32768 stay below 2 ^ 29.
  constructor <;> omega

/-! ## Mapping a snapshot -/

theorem axis_mapReadings (source : UInt32) (a : Axis) :
    (m.mapReadings reading source).state.axis a =
      max axisMin (min axisMax (Slot.all.map fun s => (m.elements s).gain (reading s) a).sum) := by
  rw [mapReadings, VirtualState.axis_clamped, VirtualState.axis_receiveAll,
    VirtualState.axis_neutral, Int.zero_add, sum_snd_contributions]

theorem button_mapReadings (source : UInt32) (b : Button) :
    (m.mapReadings reading source).state.button b = true ↔
      ∃ s, ∃ x ∈ (m.elements s).active (reading s), x.1 = .button b ∧ x.2.isPressed = true := by
  rw [mapReadings, VirtualState.button_clamped, VirtualState.button_receiveAll,
    mem_snd_contributions]
  simp [ElementMapper.button_mem_contributions]

theorem pov_mapReadings (source : UInt32) (d : PovDirection) :
    (m.mapReadings reading source).state.pov.isPressed d = true ↔
      ∃ s, ∃ x ∈ (m.elements s).active (reading s), x.1 = .pov d ∧ x.2.isPressed = true := by
  rw [mapReadings, VirtualState.pov_clamped, VirtualState.pov_receiveAll, mem_snd_contributions]
  simp [ElementMapper.pov_mem_contributions]

/-- Mapping a snapshot with trees that were read or built in. In whatever order the contributions
are received, each is in range and no sum on the way overflows a word. Each axis ends as the sum
over the slots, in any order, of what their active leaves add to it, brought into range once, and a
button or a component of the hat is pressed if and only if an active leaf for it is pressed. -/
theorem mapState_adds_up {m : Mapper} (h : ∀ s, (m.elements s).Available) (p : PadState)
    (source : UInt32) :
    (∀ cs : List (Slot × Contribution), cs.Perm (m.contributions (Slot.reading p)) →
      (∀ c ∈ cs, c.2.InRange) ∧
        ∀ n a, IsWord ((VirtualState.neutral.receiveAll ((cs.take n).map (·.2))).axis a)) ∧
    (∀ slots : List Slot, slots.Perm Slot.all → ∀ a,
      (m.mapState p source).state.axis a =
        max axisMin (min axisMax (slots.map fun s => (m.elements s).gain (s.reading p) a).sum)) ∧
    (∀ b, (m.mapState p source).state.button b = true ↔
      ∃ s, ∃ x ∈ (m.elements s).active (s.reading p), x.1 = .button b ∧ x.2.isPressed = true) ∧
    (∀ d, (m.mapState p source).state.pov.isPressed d = true ↔
      ∃ s, ∃ x ∈ (m.elements s).active (s.reading p), x.1 = .pov d ∧ x.2.isPressed = true) := by
  refine ⟨fun cs hcs => ?_, fun slots hslots a => ?_, fun b => ?_, fun d => ?_⟩
  · have hrange : ∀ c ∈ cs, c.2.InRange := fun c hc => inRange_of_mem m _ (hcs.mem_iff.1 hc)
    refine ⟨hrange, fun n a => axis_receiveAll_isWord a ?_ ?_⟩
    · intro c hc
      obtain ⟨x, hx, rfl⟩ := List.mem_map.1 hc
      exact hrange x (List.mem_of_mem_take hx)
    · have htotal := length_contributions_le m (Slot.reading p) fun s => (h s).fits
      rw [← hcs.length_eq] at htotal
      rw [List.length_map]
      exact Nat.le_trans (List.length_take_le' n cs) htotal
  · rw [(hslots.map _).sum_eq]
    exact axis_mapReadings m _ source a
  · exact button_mapReadings m _ source b
  · exact pov_mapReadings m _ source d

/-- A stick and a tree that was read on one axis. What they add to it exceeds the range. -/
theorem mapState_adds_up_mixed :
    let t : ElementMapper :=
      .compound [.axis .x .positive, .split (.digitalAxis .x .both) (.button ⟨2, by decide⟩)]
    let m : Mapper := ⟨"Mixed", Layouts.standardGamepad.elements.set .buttonA t, .standard⟩
    let p : PadState := { status := .ok, leftX := -20000, buttons := 0x1000 }
    (∀ s, (m.elements s).Available) ∧
      (Slot.all.map fun s => (m.elements s).gain (s.reading p) .x).sum = 45534 ∧
      (m.mapState p 0).state.axis .x = 32767 := by
  intro t m p
  have ht : ElementMapper.parse
      "Compound(Axis(X, +), Split(DigitalAxis(X), Button(3)))" = .ok t := by
    with_unfolding_all rfl
  have h : ∀ s, (m.elements s).Available := by
    intro s
    by_cases hs : s = .buttonA
    · subst hs
      exact .read ht
    · have hm : m.elements s = Layouts.standardGamepad.elements s := if_neg hs
      rw [hm]
      exact .builtIn (List.mem_cons_self ..) s
  have hsum : (Slot.all.map fun s => (m.elements s).gain (s.reading p) .x).sum = 45534 := by
    decide
  refine ⟨h, hsum, ?_⟩
  rw [(mapState_adds_up h p 0).2.1 Slot.all (.refl _) .x, hsum]
  decide

end Mapper

end VirtualPad
