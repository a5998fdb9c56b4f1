import VirtualPad.Force.Effect
import VirtualPad.Mapper.Basic

/-!
# Motor output

How the forces on the virtual axes become motor values, which run from zero to 65535.
-/

namespace VirtualPad

variable {V W : Type} [Scalar V] [Scalar W] [Precision V W]

open Scalar Precision

/-- The values of all motors. -/
structure MotorOutput where
  leftMotor : UInt16 := 0
  rightMotor : UInt16 := 0
  leftImpulseTrigger : UInt16 := 0
  rightImpulseTrigger : UInt16 := 0
  deriving DecidableEq, Repr

namespace MotorOutput

def idle : MotorOutput := {}

/-- The output that gives each motor a value. -/
def ofFn (f : Actuator → UInt16) : MotorOutput :=
  ⟨f .leftMotor, f .rightMotor, f .leftImpulseTrigger, f .rightImpulseTrigger⟩

def get (o : MotorOutput) : Actuator → UInt16
  | .leftMotor => o.leftMotor
  | .rightMotor => o.rightMotor
  | .leftImpulseTrigger => o.leftImpulseTrigger
  | .rightImpulseTrigger => o.rightImpulseTrigger

def isIdle (o : MotorOutput) : Bool := o = idle

@[simp] theorem get_ofFn (f : Actuator → UInt16) (a : Actuator) : (ofFn f).get a = f a := by
  cases a <;> rfl

end MotorOutput

/-- What a motor in a given mode makes of the forces, before the gain. -/
def ActuatorMode.force (mode : ActuatorMode) (forces : Forces V) : V :=
  match mode.resolved with
  | .singleAxis a .both => abs (forces.get a)
  | .singleAxis a .positive => greatest (forces.get a) zero
  | .singleAxis a .negative => greatest (-forces.get a) zero
  | .magnitudeProjection a b =>
    sqrt (forces.get a * forces.get a + forces.get b * forces.get b)
  | _ => zero

/-- The motor value of a force. -/
def motorValue (force : V) : UInt16 :=
  toMotor (round (widen (least (abs force) magnitudeMax / magnitudeMax) * ofWord 65535))

/-- The motor values for some forces, under a gain in parts of ten thousand. -/
def Mapper.motorOutput (m : Mapper) (forces : Forces V) (gain : UInt32) : MotorOutput :=
  let fraction : V := ofWord (min gain gainMax) / ofWord gainMax
  .ofFn fun a => motorValue ((m.actuators a).force forces * fraction)

end VirtualPad
