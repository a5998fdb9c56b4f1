import VirtualPad.Proofs.Force.Drive

/-!
# Registrations of a hub

What each operation of the hub does to the controllers registered for a gamepad, to the handle of its
device and to the device, one player at a time. The handle of a player is given out for good
(`Registers`), other players never see what is done through it (`device?_modify`), and only giving up
the last registration of a player stops its effects.
-/

namespace VirtualPad

variable {V W : Type} [Scalar V] [Scalar W] [Precision V W]

namespace Hub

section

omit [Scalar V]

/-! ## Handles -/

theorem exists_device? {h : Hub V} {player : UInt8} {x : DeviceHandle}
    (hx : h.handle? player = some x) : ∃ d, h.deref? x = some d ∧ h.device? player = some d := by
  have hd : h.deref? x = some (h.pool.get ⟨x.index, h.handle_lt hx⟩) :=
    List.getElem?_eq_getElem (h.handle_lt hx)
  refine ⟨_, hd, ?_⟩
  rw [device?, hx]
  exact hd

theorem handle?_eq_none_iff {h : Hub V} {player : UInt8} :
    h.handle? player = none ↔ h.device? player = none := by
  constructor
  · intro hnone
    rw [device?, hnone]
    rfl
  · intro hnone
    cases hx : h.handle? player with
    | none => rfl
    | some x =>
      obtain ⟨d, -, hd⟩ := exists_device? hx
      cases hnone.symm.trans hd

@[simp] theorem handle?_modify (h : Hub V) (x : DeviceHandle) (change : Device V → Device V)
    (p : UInt8) : (h.modify x change).handle? p = h.handle? p := rfl

theorem deref?_modify (h : Hub V) (x y : DeviceHandle) (change : Device V → Device V) :
    (h.modify x change).deref? y = if x = y then (h.deref? y).map change else h.deref? y := by
  rw [deref?, modify, List.getElem?_modify]
  obtain ⟨i⟩ := x
  obtain ⟨j⟩ := y
  simp only [DeviceHandle.mk.injEq]
  split
  · rfl
  · exact Option.map_id' ..

theorem device?_modify {h : Hub V} {player : UInt8} {x : DeviceHandle}
    (hx : h.handle? player = some x) (change : Device V → Device V) (p : UInt8) :
    (h.modify x change).device? p =
      if player = p then (h.device? p).map change else h.device? p := by
  rw [device?, handle?_modify, device?]
  cases hp : h.handle? p with
  | none => simp
  | some y =>
    have hshared : x = y ↔ player = p := by
      constructor
      · rintro rfl
        exact h.handle_injective hx hp
      · rintro rfl
        exact Option.some.inj (hx.symm.trans hp)
    simp only [Option.bind_some, deref?_modify, hshared]

theorem device?_stopEffects (h : Hub V) (player p : UInt8) :
    (h.stopEffects player).device? p =
      if player = p then (h.device? p).map Device.stopAll else h.device? p := by
  unfold stopEffects
  split
  · rename_i hnone
    split
    · rename_i hp
      rw [← hp, handle?_eq_none_iff.mp hnone]
      rfl
    · rfl
  · rename_i x hx
    exact device?_modify hx Device.stopAll p

theorem handle?_stopEffects (h : Hub V) (player p : UInt8) :
    (h.stopEffects player).handle? p = h.handle? p := by
  unfold stopEffects
  split <;> rfl

theorem registered_stopEffects (h : Hub V) (player p : UInt8) :
    (h.stopEffects player).registered p = h.registered p := by
  unfold stopEffects
  split <;> rfl

theorem handle?_setDevice (h : Hub V) (player p : UInt8) (d : Device V) :
    (h.setDevice player d).handle? p = h.handle? p := by
  unfold setDevice
  split <;> rfl

theorem registered_setDevice (h : Hub V) (player p : UInt8) (d : Device V) :
    (h.setDevice player d).registered p = h.registered p := by
  unfold setDevice
  split <;> rfl

/-! ## Registering -/

theorem registered_insert (h : Hub V) (player p : UInt8) (controllers : List UInt64) :
    ({ h with registrations := h.registrations.insert player controllers } : Hub V).registered p =
      if player = p then controllers else h.registered p := by
  rw [registered, OrderedMap.get?_insert]
  split <;> rfl

theorem isRegistered_iff (h : Hub V) (player : UInt8) (controller : UInt64) :
    h.isRegistered player controller = true ↔ controller ∈ h.registered player :=
  List.contains_iff_mem

theorem registered_enroll (h : Hub V) (player p : UInt8) (controller : UInt64) :
    (h.enroll player controller).registered p =
      if player = p ∧ controller ∉ h.registered player then controller :: h.registered player
      else h.registered p := by
  unfold enroll
  dsimp only
  by_cases hmem : controller ∈ h.registered player
  · simp only [hmem, if_true, not_true_eq_false, and_false, if_false]
  · simp only [hmem, if_false, not_false_eq_true, and_true]
    exact registered_insert ..

theorem enroll_eq (h : Hub V) (player : UInt8) (controller : UInt64) :
    ∃ registrations, h.enroll player controller = { h with registrations } := by
  unfold enroll
  dsimp only
  split
  · exact ⟨h.registrations, rfl⟩
  · exact ⟨_, rfl⟩

/-- What registering a controller for a gamepad leads to. -/
structure Registers (h h' : Hub V) (player : UInt8) (controller : UInt64) (x : DeviceHandle) :
    Prop where
  registered (p : UInt8) : h'.registered p =
    if player = p ∧ controller ∉ h.registered player then controller :: h.registered player
    else h.registered p
  handle? : h'.handle? player = some x
  handle?_of_some {p : UInt8} {y : DeviceHandle} : h.handle? p = some y → h'.handle? p = some y
  deref?_of_some {y : DeviceHandle} {d : Device V} : h.deref? y = some d → h'.deref? y = some d

theorem registers_share (h : Hub V) (player : UInt8) (controller : UInt64) :
    h.Registers ((h.share player).2.enroll player controller) player controller
      (h.share player).1 := by
  obtain ⟨registrations, henroll⟩ := (h.share player).2.enroll_eq player controller
  have hregistered (p : UInt8) : (h.share player).2.registered p = h.registered p := by
    unfold share
    split <;> rfl
  have handle (p : UInt8) : ((h.share player).2.enroll player controller).handle? p =
      (h.share player).2.handle? p := by
    rw [henroll]
    rfl
  have hderef (y : DeviceHandle) : ((h.share player).2.enroll player controller).deref? y =
      (h.share player).2.deref? y := by
    rw [henroll]
    rfl
  refine ⟨fun p => ?_, ?_, fun {p y} hy => ?_, fun {y d} hd => ?_⟩
  · rw [registered_enroll, hregistered, hregistered]
  · rw [handle]
    unfold share
    split
    · rename_i x hx
      exact hx
    · exact (OrderedMap.get?_insert ..).trans (if_pos rfl)
  · rw [handle]
    unfold share
    split
    · exact hy
    · rename_i hnone
      refine (OrderedMap.get?_insert ..).trans ?_
      rw [if_neg, ← hy]
      · rfl
      · rintro rfl
        cases hnone.symm.trans hy
  · rw [hderef]
    unfold share
    split
    · exact hd
    · obtain ⟨hlt, hpool⟩ := List.getElem?_eq_some_iff.mp hd
      exact (List.getElem?_append_left hlt).trans hd

theorem register?_eq_none {h : Hub V} {player : UInt8} (hplayer : ¬player < gamepadCount)
    (controller : UInt64) : h.register? player controller = none := by
  rw [register?, checkPlayer, if_neg hplayer]

theorem register?_eq_some (h : Hub V) {player : UInt8} (hplayer : player < gamepadCount)
    (controller : UInt64) :
    ∃ x h', h.register? player controller = some (x, h') ∧ h.Registers h' player controller x := by
  rw [register?, checkPlayer, if_pos hplayer]
  exact ⟨_, _, rfl, h.registers_share player controller⟩

theorem of_register?_eq_some {h h' : Hub V} {player : UInt8} {controller : UInt64}
    {x : DeviceHandle} (hr : h.register? player controller = some (x, h')) :
    player < gamepadCount ∧ h.Registers h' player controller x := by
  by_cases hplayer : player < gamepadCount
  · obtain ⟨y, made, hmade, hregisters⟩ := h.register?_eq_some hplayer controller
    obtain ⟨rfl, rfl⟩ := Prod.mk.inj (Option.some.inj (hmade.symm.trans hr))
    exact ⟨hplayer, hregisters⟩
  · rw [register?_eq_none hplayer] at hr
    cases hr

theorem Registers.device?_of_some {h h' : Hub V} {player : UInt8} {controller : UInt64}
    {x : DeviceHandle} (hr : h.Registers h' player controller x) {p : UInt8} {d : Device V}
    (hd : h.device? p = some d) : h'.device? p = some d := by
  obtain ⟨y, hy, hyd⟩ := Option.bind_eq_some_iff.mp hd
  rw [device?, hr.handle?_of_some hy]
  exact hr.deref?_of_some hyd

/-! ## Giving up a registration -/

theorem unregister_cases (h : Hub V) (player : UInt8) (controller : UInt64) :
    let remaining := (h.registered player).filter (· ≠ controller)
    let left : Hub V := { h with registrations := h.registrations.insert player remaining }
    (controller ∉ h.registered player ∧ h.unregister player controller = h) ∨
      (controller ∈ h.registered player ∧ remaining ≠ [] ∧ h.unregister player controller = left) ∨
      (controller ∈ h.registered player ∧ remaining = [] ∧
        h.unregister player controller = left.stopEffects player) := by
  intro remaining left
  by_cases hmem : controller ∈ h.registered player
  · right
    by_cases hlast : remaining = []
    · exact .inr ⟨hmem, hlast, (if_neg (not_not_intro hmem)).trans (if_neg (not_not_intro hlast))⟩
    · exact .inl ⟨hmem, hlast, (if_neg (not_not_intro hmem)).trans (if_pos hlast)⟩
  · exact .inl ⟨hmem, if_pos hmem⟩

theorem registered_unregister (h : Hub V) (player p : UInt8) (controller : UInt64) :
    (h.unregister player controller).registered p =
      if player = p then (h.registered player).filter (· ≠ controller) else h.registered p := by
  rcases h.unregister_cases player controller with ⟨hmem, hu⟩ | ⟨-, -, hu⟩ | ⟨-, -, hu⟩
  · have hfilter : (h.registered player).filter (· ≠ controller) = h.registered player := by
      rw [List.filter_eq_self]
      intro other hother
      rw [decide_eq_true_eq]
      rintro rfl
      exact hmem hother
    rw [hu, hfilter]
    split
    · rename_i hp
      rw [hp]
    · rfl
  · rw [hu, registered_insert]
  · rw [hu, registered_stopEffects, registered_insert]

theorem handle?_unregister (h : Hub V) (player p : UInt8) (controller : UInt64) :
    (h.unregister player controller).handle? p = h.handle? p := by
  rcases h.unregister_cases player controller with ⟨-, hu⟩ | ⟨-, -, hu⟩ | ⟨-, -, hu⟩
  · rw [hu]
  · rw [hu]
    rfl
  · rw [hu, handle?_stopEffects]
    rfl

/-- Only giving up the last registration of a player stops its effects. -/
theorem device?_unregister (h : Hub V) (player p : UInt8) (controller : UInt64) :
    (h.unregister player controller).device? p =
      if player = p ∧ controller ∈ h.registered player ∧
          (h.registered player).filter (· ≠ controller) = []
      then (h.device? p).map Device.stopAll else h.device? p := by
  rcases h.unregister_cases player controller with ⟨hmem, hu⟩ | ⟨-, hlast, hu⟩ | ⟨hmem, hlast, hu⟩
  · rw [hu, if_neg fun h => hmem h.2.1]
  · rw [hu, if_neg fun h => hlast h.2.2]
    rfl
  · simp only [hmem, hlast, and_true]
    rw [hu, device?_stopEffects]
    rfl

end

/-! ## Driving -/

theorem registered_output (h : Hub V) (player p : UInt8) (mapper : Mapper) (now gain : UInt32) :
    (h.output player mapper now gain).2.registered p = h.registered p ∧
      (h.output player mapper now gain).2.handle? p = h.handle? p := by
  unfold output
  split
  · exact ⟨rfl, rfl⟩
  · split
    · exact ⟨rfl, rfl⟩
    · exact ⟨registered_setDevice .., handle?_setDevice ..⟩

theorem registered_drive (h : Hub V) (player p : UInt8) (mapper : Mapper) (now gain : UInt32)
    (sink : MotorOutput → Except GamepadError Unit) :
    (h.drive player mapper now gain sink).hub.registered p = h.registered p ∧
      (h.drive player mapper now gain sink).hub.handle? p = h.handle? p := by
  have houtput := h.registered_output player p mapper now gain
  rcases h.drive_cases player mapper now gain sink with
    ⟨-, hd⟩ | ⟨-, -, hd⟩ | ⟨-, -, e, -, hd⟩ | ⟨-, -, -, hd⟩
  · rw [hd]
    exact ⟨rfl, rfl⟩
  · rw [hd]
    exact houtput
  · rw [hd]
    exact houtput
  · rw [hd]
    exact houtput

end Hub

end VirtualPad
