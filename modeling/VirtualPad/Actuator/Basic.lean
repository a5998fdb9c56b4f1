import VirtualPad.Control.Axis
import VirtualPad.ElementMapper.Printer

/-!
# Force feedback actuators

A gamepad has four motors. Each follows the forces on the virtual axes in a mode of its own, and
`ActuatorMode.sources` are the axes that a mode reads.
-/

namespace VirtualPad

/-- A motor of a gamepad. -/
inductive Actuator where
  | leftMotor | rightMotor | leftImpulseTrigger | rightImpulseTrigger
  deriving DecidableEq, Repr

namespace Actuator

def all : List Actuator := [.leftMotor, .rightMotor, .leftImpulseTrigger, .rightImpulseTrigger]

def name : Actuator → String
  | .leftMotor => "LeftMotor"
  | .rightMotor => "RightMotor"
  | .leftImpulseTrigger => "LeftImpulseTrigger"
  | .rightImpulseTrigger => "RightImpulseTrigger"

def ofName? (s : String) : Option Actuator := all.find? (·.name == s)

theorem ofName?_eq_some_iff {text : String} {a : Actuator} :
    ofName? text = some a ↔ text = a.name := by
  constructor
  · intro h
    have hname := List.find?_some (p := fun a : Actuator => a.name == text) h
    exact (beq_iff_eq.mp hname).symm
  · rintro rfl
    cases a <;> rfl

def index (a : Actuator) : Nat := all.idxOf a

end Actuator

/-- How a motor follows the forces on the virtual axes. -/
inductive ActuatorMode where
  | disabled
  /-- The usual mode: the length of the force on the first two axes. -/
  | standard
  /-- The force on one axis, or the part of it that points one way. -/
  | singleAxis (axis : Axis) (direction : AxisDirection)
  /-- The length of the force on two axes. -/
  | magnitudeProjection (first second : Axis)
  deriving DecidableEq, Repr

namespace ActuatorMode

/-- Replace the usual mode by what it stands for. -/
def resolved : ActuatorMode → ActuatorMode
  | .standard => .magnitudeProjection .x .y
  | mode => mode

/-- Whether the motor can ever move. -/
def isEnabled (mode : ActuatorMode) : Bool := mode != .disabled

/-- The axes whose forces a mode reads. -/
def sources (mode : ActuatorMode) : List Axis :=
  match mode.resolved with
  | .singleAxis a _ => [a]
  | .magnitudeProjection a b => [a, b]
  | _ => []

/-- The canonical text of a mode. -/
def render : ActuatorMode → String
  | .disabled => "Disabled"
  | .standard => "Default"
  | .singleAxis a d => axisText "SingleAxis" a.name d
  | .magnitudeProjection a b => "MagnitudeProjection(" ++ a.name ++ ", " ++ b.name ++ ")"

end ActuatorMode

/-- The mode of each motor. -/
abbrev ActuatorMap := Actuator → ActuatorMode

namespace ActuatorMap

/-- Both motors in the usual mode, the impulse triggers off. -/
def standard : ActuatorMap
  | .leftMotor => .standard
  | .rightMotor => .standard
  | .leftImpulseTrigger => .disabled
  | .rightImpulseTrigger => .disabled

def disabled : ActuatorMap := fun _ => .disabled

def set (m : ActuatorMap) (a : Actuator) (mode : ActuatorMode) : ActuatorMap :=
  fun b => if b = a then mode else m b

end ActuatorMap

end VirtualPad
