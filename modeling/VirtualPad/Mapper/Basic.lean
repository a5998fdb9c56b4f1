import VirtualPad.Actuator.Basic
import VirtualPad.Control.Capabilities
import VirtualPad.ElementMapper.Contribution
import VirtualPad.Mapper.Slot

/-!
# Mappers

A mapper says what every slot of a gamepad drives and how every motor follows the forces. Its
capabilities follow from both. Mapping a snapshot lets every slot contribute, in slot order, to a
neutral state, and brings the axes into range once all of them are done.
-/

namespace VirtualPad

/-- What each slot drives. -/
abbrev ElementMap := Slot → ElementMapper

namespace ElementMap

def empty : ElementMap := fun _ => .null

def set (m : ElementMap) (s : Slot) (t : ElementMapper) : ElementMap :=
  fun s' => if s' = s then t else m s'

end ElementMap

/-- A named translation between the states of a gamepad and of a virtual controller. -/
structure Mapper where
  name : String
  elements : ElementMap
  actuators : ActuatorMap

/-- A report to the simulated keyboard and mouse, with the slot that makes it. -/
structure DesktopReport where
  source : UInt32
  input : DesktopInput
  deriving DecidableEq, Repr

/-- What mapping a snapshot results in. -/
structure Mapped where
  state : VirtualState
  reports : List DesktopReport

namespace Mapper

/-- The fewest buttons a virtual controller advertises. -/
def buttonMinimum : Nat := 2

/-- The virtual elements that some slot drives. -/
def elementsDriven (m : Mapper) : List Element := Slot.all.flatMap fun s => (m.elements s).targets

/-- The axes that some motor reads. -/
def forceSources (m : Mapper) : List Axis := Actuator.all.flatMap fun a => (m.actuators a).sources

/-- The greatest number of a button among some elements. -/
def highestButton (es : List Element) : Nat :=
  es.foldl
    (fun highest e =>
      match e with
      | .button b => max highest b.number
      | _ => highest)
    0

/-- What a controller with this mapper advertises: the first two axes, whatever is driven, and the
axes that carry forces. -/
def capabilities (m : Mapper) : Capabilities where
  axes := .ofFn fun a =>
    a = .x || a = .y || m.elementsDriven.contains (.axis a) || m.forceSources.contains a
  forceAxes := .ofFn fun a => m.forceSources.contains a
  buttons := max (highestButton m.elementsDriven) buttonMinimum
  hasPov := m.elementsDriven.contains .pov

/-- The identifier under which a slot makes its reports. -/
def slotSource (source : UInt32) (s : Slot) : UInt32 := source <<< 8 ||| UInt32.ofNat s.index

/-- What every slot contributes, given its reading. -/
def contributions (m : Mapper) (reading : Slot → Reading) : List (Slot × Contribution) :=
  Slot.all.flatMap fun s => ((m.elements s).contributions (reading s)).map fun c => (s, c)

/-- Let every slot contribute its reading. -/
def mapReadings (m : Mapper) (reading : Slot → Reading) (source : UInt32) : Mapped :=
  let cs := m.contributions reading
  { state := (VirtualState.neutral.receiveAll (cs.map (·.2))).clamped
    reports := cs.filterMap fun (s, c) =>
      c.report?.map fun input => ⟨slotSource source s, input⟩ }

def mapState (m : Mapper) (p : PadState) (source : UInt32) : Mapped :=
  m.mapReadings (Slot.reading p) source

/-- Map a gamepad that is disconnected or at rest. -/
def mapNeutral (m : Mapper) (source : UInt32) : Mapped := m.mapReadings (fun _ => .rest) source

end Mapper

end VirtualPad
