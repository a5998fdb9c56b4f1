import VirtualPad.Control.Axis
import VirtualPad.Control.Button

/-!
# Elements

What a change of a virtual controller, or a filter on its changes, can refer to.
-/

namespace VirtualPad

/-- An element of a virtual controller. The hat is one element. -/
inductive Element where
  | axis (a : Axis)
  | button (b : Button)
  | pov
  deriving DecidableEq, Repr

def Element.label : Element → String
  | .axis a => "Axis " ++ a.name
  | .button b => b.label
  | .pov => "POV"

end VirtualPad
