/-!
# Simulated mouse

The elements of the mouse that a mapping can drive besides the virtual controller.
-/

namespace VirtualPad

/-- A direction of mouse motion or wheel motion. -/
inductive MouseAxis where
  | x | y | wheelHorizontal | wheelVertical
  deriving DecidableEq, Repr

inductive MouseButton where
  | left | middle | right | x1 | x2
  deriving DecidableEq, Repr

def MouseAxis.all : List MouseAxis := [.x, .y, .wheelHorizontal, .wheelVertical]

def MouseAxis.name : MouseAxis → String
  | .x => "X"
  | .y => "Y"
  | .wheelHorizontal => "WheelHorizontal"
  | .wheelVertical => "WheelVertical"

def MouseButton.all : List MouseButton := [.left, .middle, .right, .x1, .x2]

def MouseButton.name : MouseButton → String
  | .left => "Left"
  | .middle => "Middle"
  | .right => "Right"
  | .x1 => "X1"
  | .x2 => "X2"

end VirtualPad
