import VirtualPad.Force.Effect
import VirtualPad.OrderedMap

/-!
# Devices

The effects stored for one gamepad and which of them are playing. Times are milliseconds on a 32-bit
clock: how long an effect has played is the difference of two clock readings and survives the clock
going round.
-/

namespace VirtualPad

variable {V W : Type} [Scalar V] [Scalar W] [Precision V W]

open Scalar

/-- What whoever sends effects to a device holds of it. Those with the same handle share the device. -/
structure DeviceHandle where
  index : Nat
  deriving DecidableEq, Repr

/-- Stored effects and the times at which playing effects were started, both by effect id. -/
structure Device (V : Type) where
  effects : OrderedMap UInt32 (Effect V)
  playing : OrderedMap UInt32 UInt32

namespace Device

def empty : Device V := ⟨.empty, .empty⟩

/-- Store an effect, in place of one with the same id. It keeps playing if that one was. -/
def store (d : Device V) (e : Effect V) : Device V := { d with effects := d.effects.insert e.id e }

/-- Remove an effect, stopping it first. Also says whether it was stored. -/
def remove (d : Device V) (id : UInt32) : Bool × Device V :=
  (d.effects.contains id, ⟨d.effects.erase id, d.playing.erase id⟩)

/-- Start a stored effect from its beginning. -/
def start (d : Device V) (id now : UInt32) : Device V × Except (EffectError V) Unit :=
  match d.effects.get? id with
  | none => (d, .error (.unknownEffect id))
  | some e =>
    match e.checkReady with
    | .error err => (d, .error err)
    | .ok () => ({ d with playing := d.playing.insert id now }, .ok ())

/-- Stop an effect. Also says whether it was playing. -/
def stop (d : Device V) (id : UInt32) : Bool × Device V :=
  (d.playing.contains id, { d with playing := d.playing.erase id })

def stopAll (d : Device V) : Device V := { d with playing := .empty }

def isPlaying (d : Device V) (id : UInt32) : Bool := d.playing.contains id

/-- The effect with a given id, if it still goes on at a moment, with the time it has played. -/
def ongoing? (d : Device V) (now : UInt32) (entry : UInt32 × UInt32) :
    Option (Effect V × UInt32) :=
  match d.effects.get? entry.1 with
  | none => none
  | some e => if e.isFinishedAt (now - entry.2) then none else some (e, now - entry.2)

def addForces (total forces : Forces V) : Forces V := .ofFn fun a => total.get a + forces.get a

/-- The sum of the forces of all playing effects at a moment, every axis brought into the range of
magnitudes. Effects that are over stop playing. -/
def tick (d : Device V) (now : UInt32) : Forces V × Device V :=
  let total := (d.playing.entries.filterMap (d.ongoing? now)).foldl
    (fun total (e, time) => addForces total (e.forces time)) (.const zero)
  (total.map (clamp (-magnitudeMax) magnitudeMax),
    { d with playing := d.playing.filter fun entry => (d.ongoing? now entry).isSome })

end Device

end VirtualPad
