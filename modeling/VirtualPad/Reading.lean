import VirtualPad.Control.State

/-!
# Readings

What one input of a physical gamepad says at one moment, and the values a mapping derives from it.
An input that is idle or out of reach reads `rest`.

A reading can be mirrored, and it can be split into what the two halves of its travel see: the half
it lies in sees the reading stretched to its own scale, the other half is at rest.
-/

namespace VirtualPad

/-- The reading of one physical input. -/
inductive Reading where
  | stick (value : Int16)
  | button (pressed : Bool)
  | trigger (value : UInt8)
  | rest
  deriving DecidableEq, Repr

/-- The greatest trigger reading. -/
def triggerMax : Int := 255

/-- The trigger reading at which the upper half of the travel begins. -/
def triggerMid : Int := 128

/-- How far a stick has to be pushed to count as pressed. -/
def stickThreshold : Int := 16384

/-- How far a trigger has to be pulled to count as pressed. -/
def triggerThreshold : Nat := 30

def isStickPressedPositive (value : Int16) : Bool := stickThreshold ≤ value.toInt

def isStickPressedNegative (value : Int16) : Bool := value.toInt ≤ -stickThreshold

def isStickPressed (value : Int16) : Bool :=
  isStickPressedPositive value || isStickPressedNegative value

def isTriggerPressed (value : UInt8) : Bool := triggerThreshold ≤ value.toNat

/-- The negation of a stick value, with the most negative one going to the greatest. -/
def negateStick (value : Int16) : Int16 :=
  if value = Int16.minValue then Int16.maxValue else -value

/-- What a stick adds to an axis; a half axis receives the whole travel at half scale. -/
def stickAxisValue (value : Int16) : AxisDirection → Int
  | .both => value.toInt
  | .positive => (value.toInt - axisMin) / 2
  | .negative => (value.toInt - axisMax) / 2

/-- What a digital input adds to an axis. -/
def buttonAxisValue : Bool → AxisDirection → Int
  | true, .both => axisMax
  | false, .both => axisMin
  | true, .positive => axisMax
  | true, .negative => axisMin
  | false, .positive => 0
  | false, .negative => 0

/-- What a trigger adds to an axis, spread over the whole axis or over one half of it. -/
def triggerAxisValue (value : UInt8) : AxisDirection → Int
  | .both => axisMin + (value.toNat * (axisMax - axisMin) : Int).tdiv triggerMax
  | .positive => (value.toNat * axisMax : Int).tdiv triggerMax
  | .negative => (value.toNat * axisMin : Int).tdiv triggerMax

namespace Reading

/-- What the reading adds to an axis that follows it continuously. -/
def axisValue (r : Reading) (d : AxisDirection) : Int :=
  match r with
  | .stick v => stickAxisValue v d
  | .button p => buttonAxisValue p d
  | .trigger v => triggerAxisValue v d
  | .rest => 0

/-- What the reading adds to an axis that only knows its extremes. A stick drives a whole axis to
the end it is pushed to, and a half axis whichever way it is pushed. -/
def digitalAxisValue (r : Reading) (d : AxisDirection) : Int :=
  match r with
  | .stick v =>
    match d with
    | .both =>
      if isStickPressedPositive v then axisMax
      else if isStickPressedNegative v then axisMin
      else 0
    | d => if isStickPressed v then buttonAxisValue true d else 0
  | .button p => buttonAxisValue p d
  | .trigger v => buttonAxisValue (isTriggerPressed v) d
  | .rest => 0

def isPressed : Reading → Bool
  | .stick v => isStickPressed v
  | .button p => p
  | .trigger v => isTriggerPressed v
  | .rest => false

/-- The reading mirrored about the middle of its travel. -/
def mirror : Reading → Reading
  | .stick v => .stick (Int16.ofInt (-1 - v.toInt))
  | .button p => .button !p
  | .trigger v => .trigger (255 - v)
  | .rest => .rest

/-- What the two halves of a reading's travel see. -/
structure Halves where
  positive : Reading
  negative : Reading
  /-- The half that the reading lies in; it is served first. -/
  active : Bool
  deriving DecidableEq, Repr

def Halves.inPositive (r : Reading) : Halves := ⟨r, .rest, true⟩

def Halves.inNegative (r : Reading) : Halves := ⟨.rest, r, false⟩

/-- Split a reading between the two halves of its travel. -/
def halves : Reading → Halves
  | .stick v => if 0 ≤ v.toInt then .inPositive (.stick v) else .inNegative (.stick (negateStick v))
  | .button p => if p then .inPositive (.button true) else .inNegative (.button true)
  | .trigger v =>
    let span := triggerMax - triggerMid
    let value : Int := v.toNat
    if triggerMid ≤ value then
      .inPositive (.trigger (UInt8.ofNat ((value - triggerMid) * triggerMax / span).toNat))
    else
      .inNegative (.trigger (UInt8.ofNat ((triggerMid - 1 - value) * triggerMax / span).toNat))
  | .rest => .inPositive .rest

end Reading

end VirtualPad
