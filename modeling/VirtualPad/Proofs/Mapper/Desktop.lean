import VirtualPad.Proofs.Mapper.Receive

/-!
# Reports to the keyboard and the mouse

A key that is reported as pressed is held until it is reported as released, so a leaf that is left
out of one mapping leaves its key stuck. No leaf is ever left out: whatever the reading, a tree
reports exactly once for each of its leaves that drive the keyboard or the mouse, and whatever the
snapshot, so does every slot of a mapper. Only what is reported depends on the readings; without a
connected gamepad every key and button is released and nothing moves.
-/

namespace VirtualPad

/-- What a report to the keyboard and the mouse is about. -/
inductive DesktopTarget where
  | key (code : UInt8)
  | mouseButton (button : MouseButton)
  | mouseAxis (axis : MouseAxis)
  deriving DecidableEq, Repr

/-- What a report is about. -/
def DesktopInput.target : DesktopInput → DesktopTarget
  | .key code _ => .key code
  | .mouseButton b _ => .mouseButton b
  | .mouseAxis a _ => .mouseAxis a

/-- A report of a release, or of no movement. -/
def DesktopInput.AtRest : DesktopInput → Prop
  | .key _ pressed => pressed = false
  | .mouseButton _ pressed => pressed = false
  | .mouseAxis _ value => value = 0

/-- Where a report comes from and what it is about. -/
def DesktopReport.address (x : DesktopReport) : UInt32 × DesktopTarget := (x.source, x.input.target)

/-- Nothing is pressed and nothing moves, neither on the controller nor in the reports. -/
structure Mapped.AtRest (mapped : Mapped) : Prop where
  state_eq : mapped.state = .neutral
  input_atRest : ∀ x ∈ mapped.reports, x.input.AtRest

namespace ElementMapper

/-- The part of the keyboard or the mouse that a leaf drives, if it drives one. -/
def Leaf.target? : Leaf → Option DesktopTarget
  | .key code => some (.key code)
  | .mouseAxis a _ => some (.mouseAxis a)
  | .mouseButton b => some (.mouseButton b)
  | _ => none

/-- What the leaves of a tree drive of the keyboard and the mouse, leaf by leaf. -/
def desktopTargets (t : ElementMapper) : List DesktopTarget := t.leaves.filterMap Leaf.target?

/-- The reports of a tree, as reports from one source. -/
def reportsFrom (t : ElementMapper) (source : UInt32) (r : Reading) : List DesktopReport :=
  (t.reports r).map (DesktopReport.mk source)

/-! ## The reports of a tree -/

theorem target_report? (l : Leaf) (r : Reading) :
    (l.contribution r).report?.map DesktopInput.target = l.target? := by
  cases l <;> rfl

theorem targets_perm (t : ElementMapper) (r : Reading) :
    ((t.reports r).map DesktopInput.target).Perm t.desktopTargets := by
  have hperm := ((contributions_perm t r).filterMap Contribution.report?).map DesktopInput.target
  have htargets : ((gathered (t.served r)).filterMap Contribution.report?).map DesktopInput.target
      = t.desktopTargets := by
    rw [desktopTargets, ← served_fst t r, gathered, List.map_filterMap, List.filterMap_map,
      List.filterMap_map]
    refine List.filterMap_congr fun x _ => ?_
    exact target_report? x.1 x.2
  rw [htargets] at hperm
  exact hperm

theorem addresses_perm (t : ElementMapper) (source : UInt32) (r : Reading) :
    ((t.reportsFrom source r).map DesktopReport.address).Perm
      (t.desktopTargets.map fun x => (source, x)) := by
  have h := (targets_perm t r).map fun x => (source, x)
  rw [List.map_map] at h
  rw [reportsFrom, List.map_map]
  exact h

theorem Leaf.atRest (l : Leaf) {input : DesktopInput}
    (h : (l.contribution .rest).report? = some input) : input.AtRest := by
  cases l with
  | key _ | mouseAxis _ _ | mouseButton _ =>
    obtain rfl := Option.some.inj h
    rfl
  | _ => cases h

theorem eq_of_mem_rest {t : ElementMapper} {c : Contribution} (h : c ∈ t.contributions .rest) :
    ∃ l : Leaf, c = l.contribution .rest := by
  obtain ⟨x, hx, rfl⟩ := mem_contributions.1 h
  exact ⟨x.1, by rw [served_rest t x hx]⟩

theorem atRest_of_mem_reports {t : ElementMapper} {input : DesktopInput}
    (h : input ∈ t.reports .rest) : input.AtRest := by
  obtain ⟨c, hc, hinput⟩ := List.mem_filterMap.1 h
  obtain ⟨l, rfl⟩ := eq_of_mem_rest hc
  exact l.atRest hinput

end ElementMapper

namespace VirtualState

theorem receive_rest (s : VirtualState) (l : ElementMapper.Leaf) :
    s.receive (l.contribution .rest) = s := by
  cases l with
  | axis a d =>
    refine ext_elements (fun b => ?_) (fun _ => rfl) (fun _ => rfl)
    simp [ElementMapper.Leaf.contribution, receive, axis_addAxis, Reading.axisValue]
  | digitalAxis a d =>
    refine ext_elements (fun b => ?_) (fun _ => rfl) (fun _ => rfl)
    simp [ElementMapper.Leaf.contribution, receive, axis_addAxis, Reading.digitalAxisValue]
  | button b =>
    refine ext_elements (fun _ => rfl) (fun c => ?_) (fun _ => rfl)
    simp [ElementMapper.Leaf.contribution, receive, button_mergeButton, Reading.isPressed]
  | pov d =>
    refine ext_elements (fun _ => rfl) (fun _ => rfl) (fun e => ?_)
    simp [ElementMapper.Leaf.contribution, receive, mergePov, PovState.isPressed_merge,
      Reading.isPressed]
  | _ => rfl

theorem receiveAll_rest (s : VirtualState) {cs : List Contribution}
    (h : ∀ c ∈ cs, ∃ l : ElementMapper.Leaf, c = l.contribution .rest) : s.receiveAll cs = s := by
  induction cs with
  | nil => rfl
  | cons c cs ih =>
    obtain ⟨l, rfl⟩ := h c (List.mem_cons_self ..)
    rw [receiveAll_cons, receive_rest]
    exact ih fun c hc => h c (List.mem_cons_of_mem _ hc)

end VirtualState

/-! ## The reports of a mapper -/

namespace Slot

theorem index_injective {s t : Slot} (h : s.index = t.index) : s = t :=
  (List.idxOf_inj (mem_all s)).1 h

theorem index_lt (s : Slot) : s.index < 2 ^ 8 := by
  have h : s.index < all.length := List.idxOf_lt_length_of_mem (mem_all s)
  have hall : all.length = 20 := rfl
  omega

end Slot

namespace Mapper

theorem slotSource_mod (source : UInt32) (s : Slot) :
    (slotSource source s).toNat % 2 ^ 8 = s.index := by
  have hs := s.index_lt
  have hindex : (UInt32.ofNat s.index).toNat = s.index :=
    UInt32.toNat_ofNat_of_lt (Nat.lt_trans hs (by decide))
  have hhigh : (source <<< 8).toNat % 2 ^ 8 = 0 := by
    have h8 : (8 : UInt32).toNat % 32 = 8 := rfl
    rw [UInt32.toNat_shiftLeft, h8, Nat.shiftLeft_eq]
    omega
  rw [slotSource, UInt32.toNat_or, Nat.or_mod_two_pow, hhigh, hindex, Nat.zero_or,
    Nat.mod_eq_of_lt hs]

theorem slotSource_injective {source : UInt32} {s t : Slot}
    (h : slotSource source s = slotSource source t) : s = t := by
  have hs := slotSource_mod source s
  rw [h, slotSource_mod] at hs
  exact (Slot.index_injective hs).symm

variable (m : Mapper) (reading : Slot → Reading) (source : UInt32)

theorem reports_mapReadings :
    (m.mapReadings reading source).reports =
      Slot.all.flatMap fun s => (m.elements s).reportsFrom (slotSource source s) (reading s) := by
  simp only [mapReadings, contributions, List.filterMap_flatMap]
  refine List.flatMap_congr fun s _ => ?_
  rw [ElementMapper.reportsFrom, ElementMapper.reports, List.filterMap_map, List.map_filterMap]
  rfl

theorem addresses_mapReadings :
    ((m.mapReadings reading source).reports.map DesktopReport.address).Perm
      (Slot.all.flatMap fun s =>
        (m.elements s).desktopTargets.map fun x => (slotSource source s, x)) := by
  rw [reports_mapReadings, List.map_flatMap]
  exact List.Perm.flatMap_left _ fun s _ => ElementMapper.addresses_perm _ _ _

theorem filter_flatMap_source (f : Slot → List DesktopReport)
    (hf : ∀ s, ∀ x ∈ f s, x.source = slotSource source s) (s : Slot) {slots : List Slot}
    (hmem : s ∈ slots) (hnodup : slots.Nodup) :
    (slots.flatMap f).filter (·.source = slotSource source s) = f s := by
  have hown : (f s).filter (·.source = slotSource source s) = f s :=
    List.filter_eq_self.2 fun x hx => decide_eq_true (hf s x hx)
  have hother (t : Slot) (ht : t ≠ s) : (f t).filter (·.source = slotSource source s) = [] := by
    refine List.filter_eq_nil_iff.2 fun x hx hsource => ht ?_
    rw [decide_eq_true_eq, hf t x hx] at hsource
    exact slotSource_injective hsource
  induction slots with
  | nil => cases hmem
  | cons t slots ih =>
    obtain ⟨hnot, hnodup⟩ := List.nodup_cons.1 hnodup
    rw [List.flatMap_cons, List.filter_append]
    by_cases ht : t = s
    · subst ht
      have hrest : (slots.flatMap f).filter (·.source = slotSource source t) = [] := by
        rw [List.filter_flatMap, List.flatMap_eq_nil_iff]
        exact fun u hu => hother u fun h => hnot (h ▸ hu)
      rw [hown, hrest, List.append_nil]
    · have hmem := (List.mem_cons.1 hmem).resolve_left (Ne.symm ht)
      rw [hother t ht, List.nil_append, ih hmem hnodup]

theorem targets_of_slot (s : Slot) :
    (((m.mapReadings reading source).reports.filter (·.source = slotSource source s)).map
      (·.input.target)).Perm (m.elements s).desktopTargets := by
  rw [reports_mapReadings, filter_flatMap_source source _ ?_ s s.mem_all Slot.nodup_all]
  · have h := ElementMapper.targets_perm (m.elements s) (reading s)
    rw [ElementMapper.reportsFrom, List.map_map]
    exact h
  · intro t x hx
    obtain ⟨input, -, rfl⟩ := List.mem_map.1 hx
    rfl

theorem atRest_mapNeutral : (m.mapNeutral source).AtRest where
  state_eq := by
    have hrest : VirtualState.neutral.receiveAll ((m.contributions fun _ => .rest).map (·.2))
        = .neutral := by
      refine VirtualState.receiveAll_rest _ fun c hc => ?_
      obtain ⟨s, hs⟩ := (mem_snd_contributions m _).1 hc
      exact ElementMapper.eq_of_mem_rest hs
    have hclamped : VirtualState.neutral.clamped = .neutral := by decide
    rw [mapNeutral, mapReadings, hrest, hclamped]
  input_atRest := by
    intro x hx
    rw [mapNeutral, reports_mapReadings, List.mem_flatMap] at hx
    obtain ⟨s, -, hx⟩ := hx
    obtain ⟨input, hinput, rfl⟩ := List.mem_map.1 hx
    exact ElementMapper.atRest_of_mem_reports hinput

theorem mapState_of_not_ok {p : PadState} (h : p.status ≠ .ok) :
    m.mapState p source = m.mapNeutral source := by
  have hreading : Slot.reading p = fun _ => .rest := funext fun s => if_neg h
  rw [mapState, mapNeutral, hreading]

/-- Every tree reports once for each of its leaves that drive the keyboard or the mouse, whatever
the reading, and every slot of a mapper does, whatever the snapshot. Where no gamepad is connected
every report is at rest, and so is the virtual controller. -/
theorem reports_steady (m : Mapper) (source : UInt32) :
    (∀ (t : ElementMapper) (r q : Reading),
      ((t.reportsFrom source r).map DesktopReport.address).Perm
        (t.desktopTargets.map fun x => (source, x)) ∧
      ((t.reportsFrom source r).map DesktopReport.address).Perm
        ((t.reportsFrom source q).map DesktopReport.address)) ∧
    (∀ p q : PadState,
      ((m.mapState p source).reports.map DesktopReport.address).Perm
        ((m.mapState q source).reports.map DesktopReport.address) ∧
      ((m.mapState p source).reports.map DesktopReport.address).Perm
        ((m.mapNeutral source).reports.map DesktopReport.address) ∧
      ∀ s, (((m.mapState p source).reports.filter (·.source = slotSource source s)).map
        (·.input.target)).Perm (m.elements s).desktopTargets) ∧
    (∀ p : PadState, p.status ≠ .ok → (m.mapState p source).AtRest) ∧
    (m.mapNeutral source).AtRest := by
  refine ⟨fun t r q => ?_, fun p q => ⟨?_, ?_, ?_⟩, fun p hp => ?_, atRest_mapNeutral m source⟩
  · have hr := ElementMapper.addresses_perm t source r
    have hq := ElementMapper.addresses_perm t source q
    exact ⟨hr, hr.trans hq.symm⟩
  · have hp := addresses_mapReadings m (Slot.reading p) source
    exact hp.trans (addresses_mapReadings m (Slot.reading q) source).symm
  · have hp := addresses_mapReadings m (Slot.reading p) source
    exact hp.trans (addresses_mapReadings m (fun _ => .rest) source).symm
  · exact targets_of_slot m (Slot.reading p) source
  · rw [mapState_of_not_ok m source hp]
    exact atRest_mapNeutral m source

/-- A stick at its end and every button held, on a gamepad that stopped answering. -/
theorem reports_steady_failed_poll :
    let t : ElementMapper := .split (.key 0x1F) (.invert (.mouseAxis .x .both))
    let m : Mapper := ⟨"Keys", ElementMap.empty.set .stickLeftX t, .disabled⟩
    let p : PadState := { status := .error, leftX := 32767, buttons := 0xFFFF }
    p.status ≠ .ok ∧ (m.mapState p 7).AtRest ∧
      (m.mapState p 7).reports = [⟨0x700, .key 0x1F false⟩, ⟨0x700, .mouseAxis .x 0⟩] := by
  intro t m p
  have hp : p.status ≠ .ok := by decide
  exact ⟨hp, (reports_steady m 7).2.2.1 p hp, by decide⟩

end Mapper

end VirtualPad
