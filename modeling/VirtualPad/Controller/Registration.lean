import VirtualPad.Controller.Basic
import VirtualPad.Force.Hub

/-!
# Registering for force feedback

A controller and the hub each keep a record of a registration. These operations change both
together.
-/

namespace VirtualPad.Controller

variable {V W : Type} [Scalar V] [Scalar W] [Precision V W]

/-- Register for force feedback. Succeeds again and again once registered, and fails for a
controller that cannot register or whose player has no gamepad. -/
def register (c : Controller) (h : Hub V) : Bool × Controller × Hub V :=
  if !c.canRegister then (false, c, h)
  else if c.registered then (true, c, h)
  else
    match h.register? c.player c.id with
    | some (handle, h) => (true, { c with handle := some handle }, h)
    | none => (false, c, h)

/-- Give up the registration, if there is one. -/
def unregister (c : Controller) (h : Hub V) : Controller × Hub V :=
  if c.canRegister && c.registered then ({ c with handle := none }, h.unregister c.player c.id)
  else (c, h)

/-- The device that effects are sent to, while registered. -/
def device? (c : Controller) (h : Hub V) : Option (Device V) := c.handle.bind h.deref?

end VirtualPad.Controller
