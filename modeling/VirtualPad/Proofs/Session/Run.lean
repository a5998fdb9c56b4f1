import VirtualPad.Proofs.Controller.Run
import VirtualPad.Proofs.Force.Registered
import VirtualPad.Session

/-!
# Runs of a session

Controllers join a session, do what controllers can do, and are dropped, while somebody uses the
devices and drives the gamepads. A controller keeps the seat it got when it joined.

For registrations only little of a controller matters, its `Member`. `perform_moves` says what a
call can do to the members and the hub: nothing, or let a member come, register, or give up its
registration.
-/

namespace VirtualPad

variable {V W : Type} [Scalar V] [Scalar W] [Precision V W]

/-- A call in a session. Controllers are known by their seats. -/
inductive SessionCall (V : Type) where
  | enter (id : UInt64) (player : UInt8) (mapper : Mapper) (canRegister : Bool)
  | operate (i : Nat) (op : Operation V)
  | drop (i : Nat)
  /-- Change the device behind a handle in any way, whether or not the controllers that hold it are
  still registered. -/
  | change (x : DeviceHandle) (change : Device V → Device V)
  | drive (player : UInt8) (mapper : Mapper) (now gain : UInt32)
    (sink : MotorOutput → Except GamepadError Unit)

/-- The id of the controller that joins, if one does. -/
def SessionCall.id? : SessionCall V → Option UInt64
  | .enter id _ _ _ => some id
  | _ => none

/-- What registrations know of a controller. -/
structure Member where
  id : UInt64
  player : UInt8
  canRegister : Bool
  handle : Option DeviceHandle
  deriving DecidableEq, Repr

/-- The member is registered for force feedback. -/
def Member.registered (m : Member) : Bool := m.handle.isSome

/-- The member that a controller is. -/
def Controller.member (c : Controller) : Member := ⟨c.id, c.player, c.canRegister, c.handle⟩

namespace Session

/-- Let a controller perform an operation. The hub and the number of the next event are those of the
session, whatever the operation carries. -/
def operate (s : Session V) (i : Nat) (seat : Seat) : Operation V → Session V
  | .refresh _ now pad => s.settle i seat (seat.controller.refresh s.nextEvent now pad).1
  | .refreshVirtual _ now raw =>
    s.settle i seat (seat.controller.refreshVirtual s.nextEvent now raw)
  | .register _ => (s.register i seat).2
  | .unregister _ => s.unregister i seat
  | op => s.setController i seat (seat.controller.perform op)

/-- Make a call. Nothing happens on an empty seat. -/
def perform (s : Session V) : SessionCall V → Session V
  | .enter id player mapper canRegister => s.add (.create id player mapper canRegister)
  | .operate i op =>
    match s.seat? i with
    | none => s
    | some seat => s.operate i seat op
  | .drop i =>
    match s.seat? i with
    | none => s
    | some seat => s.drop i seat
  | .change x change => { s with hub := s.hub.modify x change }
  | .drive player mapper now gain sink =>
    { s with hub := (s.hub.drive player mapper now gain sink).hub }

/-- The members on their seats. -/
def roster (s : Session V) : List (Option Member) :=
  s.seats.map (Option.map fun seat => seat.controller.member)

end Session

section

omit [Scalar V]

/-! ## Members -/

namespace Session

theorem roster_getElem? (s : Session V) {i : Nat} {seat : Seat} (h : s.seat? i = some seat) :
    s.roster[i]? = some (some seat.controller.member) := by
  have hseat : s.seats[i]? = some (some seat) := Option.join_eq_some_iff.mp h
  rw [roster, List.getElem?_map, hseat]
  rfl

theorem seat?_of_roster (s : Session V) {i : Nat} {m : Member} (h : s.roster[i]? = some (some m)) :
    ∃ seat, s.seat? i = some seat ∧ seat.controller.member = m := by
  rw [roster, List.getElem?_map, Option.map_eq_some_iff] at h
  obtain ⟨slot, hslot, hm⟩ := h
  cases slot with
  | none => cases hm
  | some seat =>
    refine ⟨seat, ?_, Option.some.inj hm⟩
    rw [seat?, hslot]
    rfl

theorem roster_setSeat (s : Session V) (i : Nat) (seat : Option Seat) :
    (s.setSeat i seat).roster = s.roster.set i (seat.map fun seat => seat.controller.member) :=
  List.map_set ..

theorem roster_setSeat_self (s : Session V) {i : Nat} {seat seat' : Seat}
    (h : s.seat? i = some seat) (hmember : seat'.controller.member = seat.controller.member) :
    (s.setSeat i (some seat')).roster = s.roster := by
  rw [roster_setSeat, Option.map_some, hmember]
  have hroster := s.roster_getElem? h
  obtain ⟨hi, hroster⟩ := List.getElem?_eq_some_iff.mp hroster
  rw [← hroster]
  exact List.set_getElem_self hi

end Session

theorem Controller.member_refreshVirtual (c : Controller) (next now : UInt32) (raw : VirtualState) :
    (c.refreshVirtual next now raw).controller.member = c.member := by
  rw [refreshVirtual_eq]
  rfl

/-- Only registering and giving up the registration change what registrations know of a
controller. -/
theorem Controller.member_perform (c : Controller) {op : Operation V}
    (hregister : ∀ hub, op ≠ .register hub) (hunregister : ∀ hub, op ≠ .unregister hub) :
    (c.perform op).member = c.member := by
  cases op with
  | refresh next now pad => exact c.member_refreshVirtual ..
  | refreshVirtual next now raw => exact c.member_refreshVirtual ..
  | setDeadzone scope deadzone =>
    rw [perform, setDeadzone]
    split <;> rfl
  | setSaturation scope saturation =>
    rw [perform, setSaturation]
    split <;> rfl
  | setRange scope low high =>
    rw [perform, setRange]
    split <;> rfl
  | setGain gain =>
    obtain ⟨g, h⟩ := c.setGain_eq gain
    rw [perform, h]
    rfl
  | read limit peek =>
    obtain ⟨events, h⟩ := c.readEvents_eq limit peek
    rw [perform, h]
    rfl
  | mute e =>
    obtain ⟨muted, h⟩ := c.mute_eq e
    rw [perform, h]
    rfl
  | register hub => exact absurd rfl (hregister hub)
  | unregister hub => exact absurd rfl (hunregister hub)
  | _ => rfl

namespace Controller

variable (c : Controller) (h : Hub V)

theorem register_cases :
    (∃ done, c.register h = (done, c, h)) ∨
      ∃ x h', c.canRegister = true ∧ c.registered = false ∧
        h.register? c.player c.id = some (x, h') ∧
        c.register h = (true, { c with handle := some x }, h') := by
  unfold register
  cases hcan : c.canRegister with
  | false => exact .inl ⟨false, rfl⟩
  | true =>
    cases hregistered : c.registered with
    | true => exact .inl ⟨true, rfl⟩
    | false =>
      simp only [Bool.not_true, Bool.false_eq_true, if_false]
      cases hhub : h.register? c.player c.id with
      | none => exact .inl ⟨false, rfl⟩
      | some shared => exact .inr ⟨shared.1, shared.2, trivial, trivial, rfl, rfl⟩

theorem unregister_cases (hcan : c.registered = true → c.canRegister = true) :
    (c.registered = false ∧ c.unregister h = (c, h)) ∨
      (c.registered = true ∧
        c.unregister h = ({ c with handle := none }, h.unregister c.player c.id)) := by
  unfold unregister
  cases hregistered : c.registered with
  | false =>
    left
    rw [Bool.and_false]
    exact ⟨rfl, rfl⟩
  | true =>
    right
    rw [hcan hregistered]
    exact ⟨rfl, rfl⟩

end Controller

/-! ## Calls -/

namespace Session

/-- What a call can do to the members and the hub, with the id of who joins by it. -/
inductive Moves (s s' : Session V) : Option UInt64 → Prop where
  | stays (hroster : s'.roster = s.roster)
    (hregistered : ∀ p, s'.hub.registered p = s.hub.registered p)
    (hhandle : ∀ p, s'.hub.handle? p = s.hub.handle? p) : Moves s s' none
  | enters {m : Member} (hm : m.registered = false) (hroster : s'.roster = s.roster ++ [some m])
    (hhub : s'.hub = s.hub) : Moves s s' (some m.id)
  | registers {i : Nat} {m : Member} {x : DeviceHandle} (hm : s.roster[i]? = some (some m))
    (hcan : m.canRegister = true) (hnot : m.registered = false)
    (hroster : s'.roster = s.roster.set i (some { m with handle := some x }))
    (hhub : s.hub.register? m.player m.id = some (x, s'.hub)) : Moves s s' none
  | leaves {i : Nat} {m : Member} {x : Option Member} (hm : s.roster[i]? = some (some m))
    (hregistered : m.registered = true) (hx : ∀ n ∈ x, n = { m with handle := none })
    (hroster : s'.roster = s.roster.set i x) (hhub : s'.hub = s.hub.unregister m.player m.id) :
    Moves s s' none
  | goes {i : Nat} {m : Member} (hm : s.roster[i]? = some (some m)) (hnot : m.registered = false)
    (hroster : s'.roster = s.roster.set i none) (hhub : s'.hub = s.hub) : Moves s s' none

theorem Moves.refl (s : Session V) : s.Moves s none := .stays rfl (fun _ => rfl) fun _ => rfl

theorem Moves.of_roster {s s' : Session V} (hroster : s'.roster = s.roster)
    (hhub : s'.hub = s.hub) : s.Moves s' none :=
  .stays hroster (fun p => by rw [hhub]) fun p => by rw [hhub]

section

variable (s : Session V) {i : Nat} {seat : Seat} (h : s.seat? i = some seat)

include h

theorem moves_register : s.Moves (s.register i seat).2 none := by
  unfold register
  rcases seat.controller.register_cases s.hub with
    ⟨done, hr⟩ | ⟨x, hub, hcan, hnot, hhub, hr⟩
  · rw [hr]
    exact .of_roster (s.roster_setSeat_self h rfl) rfl
  · rw [hr]
    exact .registers (s.roster_getElem? h) hcan hnot (s.roster_setSeat i _) hhub

theorem moves_unregister
    (hcan : seat.controller.registered = true → seat.controller.canRegister = true) :
    s.Moves (s.unregister i seat) none := by
  unfold unregister
  rcases seat.controller.unregister_cases s.hub hcan with ⟨-, hu⟩ | ⟨hregistered, hu⟩
  · rw [hu]
    exact .of_roster (s.roster_setSeat_self h rfl) rfl
  · rw [hu]
    exact .leaves (x := some _) (s.roster_getElem? h) hregistered
      (fun n hn => (Option.mem_some_iff.mp hn).symm) (s.roster_setSeat i _) rfl

theorem moves_drop
    (hcan : seat.controller.registered = true → seat.controller.canRegister = true) :
    s.Moves (s.drop i seat) none := by
  unfold drop
  rcases seat.controller.unregister_cases s.hub hcan with ⟨hnot, hu⟩ | ⟨hregistered, hu⟩
  · rw [hu]
    exact .goes (s.roster_getElem? h) hnot (s.roster_setSeat i none) rfl
  · rw [hu]
    exact .leaves (x := none) (s.roster_getElem? h) hregistered (fun n hn => by cases hn)
      (s.roster_setSeat i none) rfl

theorem moves_settle {r : Refreshed} (hr : r.controller.member = seat.controller.member) :
    s.Moves (s.settle i seat r) none :=
  .of_roster (s.roster_setSeat_self h hr) rfl

theorem moves_operate (op : Operation V)
    (hcan : seat.controller.registered = true → seat.controller.canRegister = true) :
    s.Moves (s.operate i seat op) none := by
  have hkeeps (hregister : ∀ hub, op ≠ .register hub) (hunregister : ∀ hub, op ≠ .unregister hub) :
      s.Moves (s.setController i seat (seat.controller.perform op)) none :=
    .of_roster (s.roster_setSeat_self h (seat.controller.member_perform hregister hunregister)) rfl
  cases op with
  | refresh next now pad => exact s.moves_settle h (seat.controller.member_refreshVirtual ..)
  | refreshVirtual next now raw => exact s.moves_settle h (seat.controller.member_refreshVirtual ..)
  | register hub => exact s.moves_register h
  | unregister hub => exact s.moves_unregister h hcan
  | _ => exact hkeeps (fun hub => by simp) fun hub => by simp

end

end Session

end

namespace Session

/-- Whoever is registered can register. -/
def Entitled (s : Session V) : Prop :=
  ∀ m, some m ∈ s.roster → m.registered = true → m.canRegister = true

/-- Everything that a call can do to the members and the hub. -/
theorem perform_moves (s : Session V) (hs : s.Entitled) (x : SessionCall V) :
    s.Moves (s.perform x) x.id? := by
  have hcan {i : Nat} {seat : Seat} (h : s.seat? i = some seat) :
      seat.controller.registered = true → seat.controller.canRegister = true :=
    hs _ (List.mem_of_getElem? (s.roster_getElem? h))
  cases x with
  | enter id player mapper canRegister =>
    refine .enters (m := ⟨id, player, canRegister, none⟩) rfl ?_ rfl
    exact List.map_append
  | operate i op =>
    unfold perform
    dsimp only
    split
    · exact .refl s
    · rename_i seat h
      exact s.moves_operate h op (hcan h)
  | drop i =>
    unfold perform
    dsimp only
    split
    · exact .refl s
    · rename_i seat h
      exact s.moves_drop h (hcan h)
  | change x change => exact .stays rfl (fun p => rfl) fun p => rfl
  | drive player mapper now gain sink =>
    exact .stays rfl (fun p => (s.hub.registered_drive player p mapper now gain sink).1)
      fun p => (s.hub.registered_drive player p mapper now gain sink).2

end Session

end VirtualPad
