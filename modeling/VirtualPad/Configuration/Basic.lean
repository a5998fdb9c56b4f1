import VirtualPad.Controller.Basic
import VirtualPad.Registry.Basic

/-!
# Configurations

What a configuration file says: which mapper each player uses, further mappers made from templates,
and the properties that new controllers begin with.
-/

namespace VirtualPad

/-- Which mapper each player uses. -/
structure MapperSelection where
  /-- The mapper of every player who has no other. -/
  default : String := Layouts.standardGamepad.name
  /-- The mappers of single players, who are numbered from one. -/
  players : OrderedMap UInt8 String := .empty
  deriving DecidableEq, Repr

/-- A mapper made from a template and overrides in the mapping language. -/
structure CustomMapper where
  name : String
  /-- The mapper to start from; without one, nothing is mapped. -/
  template : Option String := none
  /-- The texts of the overrides, by the name of what they override. -/
  elements : OrderedMap String String := .empty
  deriving DecidableEq, Repr

/-- The properties of a new controller. -/
structure ControllerProperties where
  deadzone : UInt32 := 0
  saturation : UInt32 := axisPropertyMax
  rangeMin : Int32 := -32768
  rangeMax : Int32 := 32767
  gain : UInt32 := controllerGainMax
  enabled : Bool := true
  deriving DecidableEq, Repr

structure Configuration where
  mapper : MapperSelection := {}
  customMappers : List CustomMapper := []
  properties : ControllerProperties := {}
  deriving DecidableEq, Repr

/-- A change of a controller that can be refused. -/
abbrev ControllerStep := Controller → Controller × Except PropertyError Unit

/-- Take steps one after the other. The first that is refused ends this; what was done before it
stays. -/
def takeSteps : List ControllerStep → Controller → Controller × Except PropertyError Unit
  | [], c => (c, .ok ())
  | step :: steps, c =>
    match step c with
    | (c, .ok ()) => takeSteps steps c
    | (c, .error e) => (c, .error e)

/-- Give a controller the properties, for all its axes. -/
def ControllerProperties.applyTo (p : ControllerProperties) :
    Controller → Controller × Except PropertyError Unit :=
  takeSteps [
    (·.setDeadzone .every p.deadzone),
    (·.setSaturation .every p.saturation),
    (·.setRange .every p.rangeMin p.rangeMax),
    fun c => (c.setEnabled .every p.enabled, .ok ()),
    (·.setGain p.gain)]

end VirtualPad
