import VirtualPad.Control.State

/-!
# Events

A change of one element of a virtual controller. `changes` lists the changes between two states in
the order in which they are reported.
-/

namespace VirtualPad

/-- An element that changed, with its new value. -/
inductive EventData where
  | axis (axis : Axis) (value : Int)
  | button (button : Button) (pressed : Bool)
  | pov (state : PovState)
  deriving DecidableEq

def EventData.element : EventData → Element
  | .axis a _ => .axis a
  | .button b _ => .button b
  | .pov _ => .pov

/-- A recorded change. -/
structure Event where
  data : EventData
  /-- Milliseconds on the clock of whoever recorded the change. -/
  timestamp : UInt32
  /-- The position of the change among all recorded changes. -/
  sequence : UInt32
  deriving DecidableEq

/-- What changed from one state to another: axes, then buttons, then the hat. -/
def VirtualState.changes (before after : VirtualState) : List EventData :=
  (Axis.all.filterMap fun a =>
      if after.axis a = before.axis a then none else some (.axis a (after.axis a))) ++
    (Button.all.filterMap fun b =>
      if after.button b = before.button b then none else some (.button b (after.button b))) ++
    if after.pov = before.pov then [] else [.pov after.pov]

end VirtualPad
