import VirtualPad.Force.Device
import VirtualPad.Gamepad
import VirtualPad.Mapper.Force

/-!
# Force feedback hub

One device for each gamepad, the controllers registered to use it, and the motor output that the
gamepad last accepted. Driving a gamepad works out the output of a moment and writes it only if it
differs from the accepted one. Once the last registration of a gamepad is gone, its effects stop.
-/

namespace VirtualPad

variable {V W : Type} [Scalar V] [Scalar W] [Precision V W]

/-- The devices of all gamepads. They live in a pool, where everybody who uses one finds it by its
handle. -/
structure Hub (V : Type) where
  pool : List (Device V)
  handles : OrderedMap UInt8 DeviceHandle
  registrations : OrderedMap UInt8 (List UInt64)
  accepted : OrderedMap UInt8 MotorOutput
  /-- The handle of a gamepad leads to a device. -/
  handle_lt {player : UInt8} {x : DeviceHandle} :
    handles.get? player = some x → x.index < pool.length
  /-- Two gamepads have two devices. -/
  handle_injective {player other : UInt8} {x : DeviceHandle} :
    handles.get? player = some x → handles.get? other = some x → player = other

/-- What driving a gamepad leads to. -/
structure Driven (V : Type) where
  result : Except GamepadError MotorOutput
  /-- The output that was written, whether or not the gamepad accepted it. -/
  written : Option MotorOutput
  hub : Hub V

namespace Hub

def empty : Hub V where
  pool := []
  handles := .empty
  registrations := .empty
  accepted := .empty
  handle_lt h := by cases h
  handle_injective h := by cases h

/-- The handle of the device of a gamepad, if anybody ever registered. -/
def handle? (h : Hub V) (player : UInt8) : Option DeviceHandle := h.handles.get? player

/-- The device behind a handle. -/
def deref? (h : Hub V) (x : DeviceHandle) : Option (Device V) := h.pool[x.index]?

/-- The device of a gamepad, if anybody ever registered. -/
def device? (h : Hub V) (player : UInt8) : Option (Device V) := (h.handle? player).bind h.deref?

def modify (h : Hub V) (x : DeviceHandle) (change : Device V → Device V) : Hub V where
  pool := h.pool.modify x.index change
  handles := h.handles
  registrations := h.registrations
  accepted := h.accepted
  handle_lt hx := by
    rw [List.length_modify]
    exact h.handle_lt hx
  handle_injective := h.handle_injective

/-- Replace the device of a gamepad, if there is one. -/
def setDevice (h : Hub V) (player : UInt8) (d : Device V) : Hub V :=
  match h.handle? player with
  | none => h
  | some x => h.modify x fun _ => d

/-- Add a device for a gamepad. -/
def make (h : Hub V) (player : UInt8) : Hub V where
  pool := h.pool ++ [.empty]
  handles := h.handles.insert player ⟨h.pool.length⟩
  registrations := h.registrations
  accepted := h.accepted
  handle_lt {other x} hx := by
    rw [List.length_append, List.length_singleton]
    rw [OrderedMap.get?_insert] at hx
    split at hx
    · obtain rfl := Option.some.inj hx
      exact Nat.lt_succ_self _
    · exact Nat.lt_succ_of_lt (h.handle_lt hx)
  handle_injective {p q x} hp hq := by
    -- The new handle leads behind the devices that the other handles lead to.
    rw [OrderedMap.get?_insert] at hp hq
    split at hp
    · rename_i hplayer
      obtain rfl := Option.some.inj hp
      split at hq
      · rename_i hother
        exact hplayer.symm.trans hother
      · exact absurd (h.handle_lt hq) (Nat.lt_irrefl _)
    · split at hq
      · obtain rfl := Option.some.inj hq
        exact absurd (h.handle_lt hp) (Nat.lt_irrefl _)
      · exact h.handle_injective hp hq

/-- The handle of the device of a gamepad. The first to ask for it has the device made. -/
def share (h : Hub V) (player : UInt8) : DeviceHandle × Hub V :=
  match h.handle? player with
  | some x => (x, h)
  | none => (⟨h.pool.length⟩, h.make player)

def registered (h : Hub V) (player : UInt8) : List UInt64 :=
  (h.registrations.get? player).getD []

def registrationCount (h : Hub V) (player : UInt8) : Nat := (h.registered player).length

def isRegistered (h : Hub V) (player : UInt8) (controller : UInt64) : Bool :=
  (h.registered player).contains controller

/-- Count a controller among those registered for a gamepad. -/
def enroll (h : Hub V) (player : UInt8) (controller : UInt64) : Hub V :=
  let known := h.registered player
  if controller ∈ known then h
  else { h with registrations := h.registrations.insert player (controller :: known) }

/-- Register a controller for a gamepad and hand out the device of the gamepad; nothing if there is
no such gamepad. Registering twice is the same as registering once. -/
def register? (h : Hub V) (player : UInt8) (controller : UInt64) : Option (DeviceHandle × Hub V) :=
  match checkPlayer player with
  | .error _ => none
  | .ok player => some ((h.share player).map id (·.enroll player controller))

def stopEffects (h : Hub V) (player : UInt8) : Hub V :=
  match h.handle? player with
  | none => h
  | some x => h.modify x Device.stopAll

/-- Remove a registration, if there is one. -/
def unregister (h : Hub V) (player : UInt8) (controller : UInt64) : Hub V :=
  let known := h.registered player
  if controller ∉ known then h
  else
    let remaining := known.filter (· ≠ controller)
    let h := { h with registrations := h.registrations.insert player remaining }
    if remaining ≠ [] then h else h.stopEffects player

/-- The motor output of a moment. Without a registration the motors stand still and no time passes
for the effects. -/
def output (h : Hub V) (player : UInt8) (mapper : Mapper) (now gain : UInt32) :
    MotorOutput × Hub V :=
  match h.device? player with
  | none => (.idle, h)
  | some d =>
    if h.registrationCount player = 0 then (.idle, h)
    else
      let (forces, d) := d.tick now
      (mapper.motorOutput forces gain, h.setDevice player d)

/-- Work out the motor output of a moment and write it if it differs from the accepted one. The last
argument is how the gamepad reacts to a write. -/
def drive (h : Hub V) (player : UInt8) (mapper : Mapper) (now gain : UInt32)
    (sink : MotorOutput → Except GamepadError Unit) : Driven V :=
  match checkPlayer player with
  | .error e => ⟨.error e, none, h⟩
  | .ok player =>
    let (out, h) := h.output player mapper now gain
    if out = (h.accepted.get? player).getD .idle then ⟨.ok out, none, h⟩
    else
      match sink out with
      | .error e => ⟨.error e, some out, h⟩
      | .ok () => ⟨.ok out, some out, { h with accepted := h.accepted.insert player out }⟩

end Hub

end VirtualPad
