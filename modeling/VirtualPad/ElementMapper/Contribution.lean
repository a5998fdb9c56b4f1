import VirtualPad.ElementMapper.Basic
import VirtualPad.Reading

/-!
# Contributions

A reading that passes through an element mapper becomes a list of contributions, one for each leaf
it reaches, in the order in which the leaves are served. The list depends on the tree and on the
reading only. `VirtualState.receive` adds a contribution to a state; contributions to the keyboard
and the mouse leave the state alone and are reported instead.
-/

namespace VirtualPad

/-- A report to the simulated keyboard and mouse. -/
inductive DesktopInput where
  | key (code : UInt8) (pressed : Bool)
  | mouseButton (button : MouseButton) (pressed : Bool)
  | mouseAxis (axis : MouseAxis) (value : Int)
  deriving DecidableEq, Repr

/-- What one leaf contributes. -/
inductive Contribution where
  | axis (axis : Axis) (amount : Int)
  | button (button : Button) (pressed : Bool)
  | pov (direction : PovDirection) (pressed : Bool)
  | desktop (input : DesktopInput)
  deriving DecidableEq, Repr

/-- The report that a contribution makes to the keyboard and the mouse, if it makes one. -/
def Contribution.report? : Contribution → Option DesktopInput
  | .desktop input => some input
  | _ => none

namespace VirtualState

/-- Add a contribution: amounts add up, presses accumulate. -/
def receive (s : VirtualState) : Contribution → VirtualState
  | .axis a amount => s.addAxis a amount
  | .button b pressed => s.mergeButton b pressed
  | .pov d pressed => s.mergePov d pressed
  | .desktop _ => s

def receiveAll (s : VirtualState) (cs : List Contribution) : VirtualState := cs.foldl receive s

end VirtualState

namespace ElementMapper

mutual

/-- What a reading contributes through a tree. A split serves the half that the reading lies in
before the half at rest. -/
def contributions : ElementMapper → Reading → List Contribution
  | .axis a d, r => [.axis a (r.axisValue d)]
  | .digitalAxis a d, r => [.axis a (r.digitalAxisValue d)]
  | .button b, r => [.button b r.isPressed]
  | .pov d, r => [.pov d r.isPressed]
  | .key code, r => [.desktop (.key code r.isPressed)]
  | .mouseAxis a d, r => [.desktop (.mouseAxis a (r.axisValue d))]
  | .mouseButton b, r => [.desktop (.mouseButton b r.isPressed)]
  | .invert t, r => t.contributions r.mirror
  | .split p n, r =>
    let h := r.halves
    if h.active then p.contributions h.positive ++ n.contributions h.negative
    else n.contributions h.negative ++ p.contributions h.positive
  | .compound ts, r => contributionsAll ts r
  | .null, _ => []

def contributionsAll : List ElementMapper → Reading → List Contribution
  | [], _ => []
  | t :: ts, r => t.contributions r ++ contributionsAll ts r

end

/-- What a reading reports to the keyboard and the mouse through a tree. -/
def reports (t : ElementMapper) (r : Reading) : List DesktopInput :=
  (t.contributions r).filterMap Contribution.report?

end ElementMapper

end VirtualPad
