import VirtualPad.Proofs.Controller.Reads
import VirtualPad.Proofs.ElementMapper.Targets
import VirtualPad.Proofs.Mapper.Receive

/-!
# A controller moves only what it advertises

What a controller advertises is read off its mapper once, and what it shows is made anew by every
refresh. Whatever a slot contributes goes to an element that the mapper drives, and so to one that
is advertised (`has_of_driven`). All others rest: a mapped state leaves them at their neutral values
(`within_mapReadings`), and properties are not applied to axes that are not there
(`VirtualState.Within.present`).

The raw state and the presented state of a controller both rest in this way after every operation
that takes its raw state from a gamepad (`Confined.perform`). As an event tells of a difference
between two presented states, no event is about an element that is not advertised
(`has_of_appended`).
-/

namespace VirtualPad

variable {V : Type}

/-- Whether a controller with these capabilities has an element. -/
def Capabilities.Has (caps : Capabilities) : Element → Prop
  | .axis a => caps.hasAxis a = true
  | .button b => b.number ≤ caps.buttons
  | .pov => caps.hasPov = true

/-- Everything that is not advertised rests. -/
def VirtualState.Within (s : VirtualState) (caps : Capabilities) : Prop :=
  ∀ e, ¬ caps.Has e → s.entry e = VirtualState.neutral.entry e

/-- Whether an operation, if it is a refresh, takes its raw state from a snapshot of the gamepad. -/
def Operation.fromPad : Operation V → Bool
  | .refreshVirtual .. => false
  | _ => true

/-! ## What a mapper drives is advertised -/

namespace Mapper

theorem le_foldl_of_le {α : Type} {f : Nat → α → Nat} (hf : ∀ n x, n ≤ f n x) (xs : List α)
    (n : Nat) : n ≤ xs.foldl f n := by
  induction xs generalizing n with
  | nil => exact Nat.le_refl n
  | cons x xs ih => exact Nat.le_trans (hf n x) (ih (f n x))

theorem number_le_highestButton {es : List Element} {b : Button} (h : .button b ∈ es) :
    b.number ≤ highestButton es := by
  obtain ⟨before, after, rfl⟩ := List.append_of_mem h
  rw [highestButton, List.foldl_append, List.foldl_cons]
  -- Where `b` is met the highest number so far is at least that of `b`, and it never decreases.
  refine Nat.le_trans (Nat.le_max_right _ b.number) (le_foldl_of_le ?_ after _)
  intro n e
  cases e with
  | button c => exact Nat.le_max_left n c.number
  | _ => exact Nat.le_refl n

theorem has_of_driven {m : Mapper} {e : Element} (h : e ∈ m.elementsDriven) :
    m.capabilities.Has e := by
  cases e with
  | axis a => simp [Capabilities.Has, Capabilities.hasAxis, capabilities, h]
  | button b => exact Nat.le_trans (number_le_highestButton h) (Nat.le_max_left ..)
  | pov => exact List.contains_iff_mem.2 h

theorem within_mapReadings (m : Mapper) (reading : Slot → Reading) (source : UInt32) :
    (m.mapReadings reading source).state.Within m.capabilities := by
  intro e he
  let cs := (m.contributions reading).map (·.2)
  have hrest : (VirtualState.neutral.receiveAll cs).entry e = VirtualState.neutral.entry e := by
    refine VirtualState.entry_receiveAll ?_
    intro c hc hce
    obtain ⟨s, hs⟩ := (mem_snd_contributions m reading).1 hc
    have htarget := ElementMapper.mem_targets_of_contribution hs hce
    exact he (has_of_driven (List.mem_flatMap.2 ⟨s, s.mem_all, htarget⟩))
  cases e with
  | axis a =>
    have hzero := VirtualState.entry_axis_eq.1 hrest
    rw [VirtualState.entry_axis_eq, mapReadings, VirtualState.axis_clamped, hzero,
      VirtualState.axis_neutral]
    rfl
  | button b => exact hrest
  | pov => exact hrest

end Mapper

/-! ## Presenting -/

theorem VirtualState.Within.present {s : VirtualState} {caps : Capabilities} (h : s.Within caps)
    (properties : PerAxis AxisProperties) : (s.present caps properties).Within caps := by
  intro e he
  cases e with
  | axis a =>
    have habsent : ¬ caps.hasAxis a = true := he
    have hs : (s.present caps properties).axis a = s.axis a :=
      (PerAxis.get_ofFn _ a).trans (if_neg habsent)
    rw [← h _ he, entry_axis_eq, hs]
  | button b => exact h _ he
  | pov => exact h _ he

namespace Controller

/-- Neither the raw state nor the presented one moves anything that is not advertised. -/
structure Confined (c : Controller) : Prop where
  raw : c.raw.Within c.capabilities
  state : c.state.Within c.capabilities

theorem Confined.create (id : UInt64) (player : UInt8) (mapper : Mapper) (canRegister : Bool) :
    (create id player mapper canRegister).Confined := by
  have hneutral : VirtualState.neutral.Within mapper.capabilities := fun _ _ => rfl
  exact ⟨hneutral, hneutral.present _⟩

theorem within_present {c : Controller} {raw : VirtualState}
    (hraw : raw.Within c.capabilities) : (c.present raw).Within c.capabilities :=
  hraw.present c.properties

theorem within_of_rawOf? {mapper : Mapper} {player : UInt8} {op : Operation V}
    {raw : VirtualState} (hop : op.fromPad = true) (h : rawOf? mapper player op = some raw) :
    raw.Within mapper.capabilities := by
  cases op with
  | refresh next now pad =>
    obtain rfl := Option.some.inj h
    exact mapper.within_mapReadings (Slot.reading pad) player.toUInt32
  | refreshVirtual next now raw' => cases hop
  | _ => cases h

theorem Confined.perform {c : Controller} (h : c.Confined) {op : Operation V}
    (hop : op.fromPad = true) : (c.perform op).Confined := by
  rcases c.perform_cases op with ⟨next, now, raw, hr, heq⟩ | ⟨-, ⟨scope, update, heq⟩ | hv⟩
  · have hraw : raw.Within c.capabilities := within_of_rawOf? hop hr
    rw [heq, refreshVirtual_eq]
    exact ⟨hraw, within_present hraw⟩
  · rw [heq]
    exact ⟨h.raw, h.raw.present _⟩
  · have hcaps : (c.perform op).capabilities = c.capabilities :=
      congrArg Mapper.capabilities hv.mapper
    refine ⟨?_, ?_⟩
    · rw [hv.raw, hcaps]
      exact h.raw
    · rw [hv.state, hcaps]
      exact h.state

theorem Confined.run {c : Controller} (h : c.Confined) {ops : List (Operation V)}
    (hops : ∀ op ∈ ops, op.fromPad = true) : (c.run ops).Confined := by
  induction ops generalizing c with
  | nil => exact h
  | cons op ops ih =>
    have hop := h.perform (hops op List.mem_cons_self)
    exact ih hop fun op' hop' => hops op' (List.mem_cons_of_mem op hop')

/-! ## Events -/

theorem Confined.has_of_reported {c : Controller} (h : c.Confined) {raw : VirtualState}
    (hraw : raw.Within c.capabilities) {d : EventData} (hd : d ∈ c.reported raw) :
    c.capabilities.Has d.element := by
  obtain ⟨e, he, rfl⟩ := List.mem_map.1 hd
  rw [VirtualState.element_entry]
  by_contra hhas
  have hsame : (c.present raw).entry e = c.state.entry e :=
    (within_present hraw e hhas).trans (h.state e hhas).symm
  have hchanged := of_decide_eq_true (List.mem_filter.1 he).2
  exact hchanged.1 hsame

theorem Confined.has_of_gained {c : Controller} (h : c.Confined) {op : Operation V}
    (hop : op.fromPad = true) {e : Event} (he : e ∈ c.gained op) :
    c.capabilities.Has e.data.element := by
  rw [gained] at he
  cases hr : rawOf? c.mapper c.player op with
  | none =>
    rw [addedAll_of_not_refresh hr] at he
    cases he
  | some raw =>
    obtain ⟨now, hcalls⟩ := calls_of_refresh hr
    rw [hcalls] at he
    exact h.has_of_reported (within_of_rawOf? hop hr) (EventBuffer.data_mem_of_mem_addedAll he)

theorem Confined.has_of_appended {c : Controller} (h : c.Confined) {ops : List (Operation V)}
    (hops : ∀ op ∈ ops, op.fromPad = true) {e : Event} (he : e ∈ c.appended ops) :
    c.capabilities.Has e.data.element := by
  induction ops generalizing c with
  | nil => cases he
  | cons op ops ih =>
    have hop := hops op List.mem_cons_self
    rcases List.mem_append.1 he with he | he
    · exact h.has_of_gained hop he
    · have hcaps : (c.perform op).capabilities = c.capabilities :=
        congrArg Mapper.capabilities (c.mapper_perform op).1
      rw [← hcaps]
      exact ih (h.perform hop) (fun op' hop' => hops op' (List.mem_cons_of_mem op hop')) he

/-- A new controller, after any refreshes from a gamepad mixed with any other operations. An axis
that the mapper does not advertise is at zero, a button beyond the number of buttons is not pressed,
the hat is centred where there is none, and no event that was ever buffered, still stored or not,
is about an element that is not advertised. Each tree leaves all but its targets as they are,
whatever the reading and the state. -/
theorem run_confined (id : UInt64) (player : UInt8) (mapper : Mapper) (canRegister : Bool)
    {ops : List (Operation V)} (h : ∀ op ∈ ops, op.fromPad = true) :
    let start := Controller.create id player mapper canRegister
    let c := start.run ops
    let caps := mapper.capabilities
    c.capabilities = caps ∧
    (∀ a, caps.hasAxis a = false → c.state.axis a = 0) ∧
    (∀ b : Button, caps.buttons < b.number → c.state.button b = false) ∧
    (caps.hasPov = false → ∀ d, c.state.pov.isPressed d = false) ∧
    (∀ e ∈ start.appended ops, caps.Has e.data.element) ∧
    (∀ e ∈ c.events.toList, caps.Has e.data.element) ∧
    ∀ (t : ElementMapper) (e : Element), e ∉ t.targets → ∀ (r : Reading) (s : VirtualState),
      (s.receiveAll (t.contributions r)).entry e = s.entry e := by
  intro start c caps
  have hstart : start.Confined := .create id player mapper canRegister
  have hcaps : c.capabilities = caps := congrArg Mapper.capabilities (mapper_run start ops).1
  have hstate : c.state.Within caps := hcaps ▸ (hstart.run h).state
  have hevents : ∀ e ∈ start.appended ops, caps.Has e.data.element := fun e he =>
    hstart.has_of_appended h he
  refine ⟨hcaps, ?_, ?_, ?_, hevents, ?_, fun t e he r s => ?_⟩
  · intro a ha
    have haxis := VirtualState.entry_axis_eq.1 (hstate (.axis a) (Bool.eq_false_iff.1 ha))
    exact haxis.trans (VirtualState.axis_neutral a)
  · intro b hb
    have hbutton := VirtualState.entry_button_eq.1 (hstate (.button b) (Nat.not_le.2 hb))
    exact hbutton.trans (VirtualState.button_neutral b)
  · intro hpov d
    have hcentered := VirtualState.entry_pov_eq.1 (hstate .pov (Bool.eq_false_iff.1 hpov))
    rw [hcentered]
    exact VirtualState.isPressed_neutral d
  · intro e he
    have hsublist := start.sublist_run ops
    exact hevents e (hsublist.subset (List.mem_append_right _ he))
  · exact VirtualState.entry_receiveAll_contributions he r s

/-- A stick on the third axis and a button under number twelve. -/
theorem run_confined_twelve :
    let elements := (ElementMap.empty.set .stickLeftX (.axis .z .both)).set .buttonA
      (.invert (.split .null (.button ⟨11, by decide⟩)))
    let mapper : Mapper := ⟨"", elements, .disabled⟩
    let pad : PadState := { status := .ok, leftX := 20000 }
    let ops : List (Operation Unit) :=
      [.setCapacity 8, .setDeadzone .every 1000, .refresh 7 10 pad, .setRange .every 0 100]
    let start := Controller.create 1 0 mapper false
    let c := start.run ops
    (∀ op ∈ ops, op.fromPad = true) ∧ mapper.capabilities.hasAxis .rotX = false ∧
      mapper.capabilities.buttons = 12 ∧ mapper.capabilities.hasPov = false ∧
      c.state.axis .rotX = 0 ∧ c.state.button ⟨12, by decide⟩ = false ∧
      c.state.pov.isPressed .up = false ∧ c.events.toList ≠ [] ∧
      (∀ e ∈ c.events.toList, mapper.capabilities.Has e.data.element) ∧
      ∀ (r : Reading) (s : VirtualState),
        (s.receiveAll ((mapper.elements .buttonA).contributions r)).entry .pov = s.entry .pov := by
  intro elements mapper pad ops start c
  have hops : ∀ op ∈ ops, op.fromPad = true := by decide
  have haxis : mapper.capabilities.hasAxis .rotX = false := by decide +kernel
  have hbuttons : mapper.capabilities.buttons = 12 := by decide +kernel
  have hpov : mapper.capabilities.hasPov = false := by decide +kernel
  have hbeyond : mapper.capabilities.buttons < Button.number ⟨12, by decide⟩ := by
    rw [hbuttons]
    decide
  obtain ⟨-, haxes, hpressed, hhat, -, hevents, htree⟩ := run_confined 1 0 mapper false hops
  refine ⟨hops, haxis, hbuttons, hpov, haxes .rotX haxis, hpressed _ hbeyond, hhat hpov .up, ?_,
    hevents, ?_⟩
  · decide +kernel
  · exact htree (mapper.elements .buttonA) .pov (by decide +kernel)

end Controller

end VirtualPad
