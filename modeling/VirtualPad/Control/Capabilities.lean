import VirtualPad.Control.Axis

/-!
# Capabilities

What a virtual controller advertises to the programs that read it.
-/

namespace VirtualPad

/-- The elements a virtual controller has. -/
structure Capabilities where
  /-- The axes that are present. -/
  axes : PerAxis Bool
  /-- The axes that carry force feedback. -/
  forceAxes : PerAxis Bool
  /-- Buttons one up to this number are present. -/
  buttons : Nat
  hasPov : Bool
  deriving DecidableEq, Repr

namespace Capabilities

def hasAxis (c : Capabilities) (a : Axis) : Bool := c.axes.get a

def hasForceAxis (c : Capabilities) (a : Axis) : Bool := c.forceAxes.get a

def axisList (c : Capabilities) : List Axis := Axis.all.filter c.hasAxis

def axisCount (c : Capabilities) : Nat := c.axisList.length

def supportsForce (c : Capabilities) : Bool := Axis.all.any c.hasForceAxis

end Capabilities

end VirtualPad
