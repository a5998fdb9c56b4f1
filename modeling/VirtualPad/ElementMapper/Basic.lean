import VirtualPad.Control.Element
import VirtualPad.Control.Mouse
import VirtualPad.Control.Pov

/-!
# Element mappers

An element mapper says what one physical input drives. It is a tree: a leaf drives one element, and
the inner nodes mirror a reading, split it between two trees, or pass it to several trees.

Alongside the type stand the measures other modules speak of: the nesting depth of a tree, whether
its compound nodes keep to the child limit, and the virtual elements it can reach.
-/

namespace VirtualPad

/-- What one physical input drives. -/
inductive ElementMapper where
  /-- Move an axis with the reading. -/
  | axis (axis : Axis) (direction : AxisDirection)
  /-- Move an axis to its extremes. -/
  | digitalAxis (axis : Axis) (direction : AxisDirection)
  /-- Press a button. -/
  | button (button : Button)
  /-- Press a component of the hat. -/
  | pov (direction : PovDirection)
  /-- Press a key, by its scan code. -/
  | key (code : UInt8)
  /-- Move the mouse. -/
  | mouseAxis (axis : MouseAxis) (direction : AxisDirection)
  /-- Press a mouse button. -/
  | mouseButton (button : MouseButton)
  /-- Pass on the mirrored reading. -/
  | invert (child : ElementMapper)
  /-- Pass each half of the travel to a tree of its own. -/
  | split (positive negative : ElementMapper)
  /-- Pass the reading to every child. -/
  | compound (children : List ElementMapper)
  /-- Ignore the reading. -/
  | null
  deriving BEq, Repr

namespace ElementMapper

/-- The most children a compound mapper may have. -/
def childLimit : Nat := 8

/-- A compound mapper, unless there are no children or too many. -/
def compound? (children : List ElementMapper) : Option ElementMapper :=
  if children = [] ∨ childLimit < children.length then none else some (.compound children)

/-- Whether a mapper is the one that ignores its reading. -/
def isNull : ElementMapper → Bool
  | .null => true
  | _ => false

mutual

/-- The nesting depth of a tree: the null mapper has none, every other leaf has depth one. -/
def depth : ElementMapper → Nat
  | .null => 0
  | .invert t => t.depth + 1
  | .split p n => max p.depth n.depth + 1
  | .compound ts => depthAll ts + 1
  | _ => 1

def depthAll : List ElementMapper → Nat
  | [] => 0
  | t :: ts => max t.depth (depthAll ts)

end

mutual

/-- Every compound node of the tree has at least one child and no more than the limit. -/
def KeepsLimit : ElementMapper → Prop
  | .invert t => t.KeepsLimit
  | .split p n => p.KeepsLimit ∧ n.KeepsLimit
  | .compound ts => 1 ≤ ts.length ∧ ts.length ≤ childLimit ∧ KeepLimit ts
  | _ => True

def KeepLimit : List ElementMapper → Prop
  | [] => True
  | t :: ts => t.KeepsLimit ∧ KeepLimit ts

end

mutual

/-- The virtual elements a tree drives, in the order of its leaves, with repetitions. -/
def elements : ElementMapper → List Element
  | .axis a _ => [.axis a]
  | .digitalAxis a _ => [.axis a]
  | .button b => [.button b]
  | .pov _ => [.pov]
  | .invert t => t.elements
  | .split p n => p.elements ++ n.elements
  | .compound ts => elementsAll ts
  | _ => []

def elementsAll : List ElementMapper → List Element
  | [] => []
  | t :: ts => t.elements ++ elementsAll ts

end

/-- Each virtual element a tree drives, once, in the order in which it is first met. -/
def targets (t : ElementMapper) : List Element :=
  t.elements.foldl (fun seen e => if e ∈ seen then seen else seen ++ [e]) []

end ElementMapper

end VirtualPad
