/-!
# Physical gamepad

Snapshots of a physical gamepad, as a poll of the device delivers them, and the check that a player
number addresses a gamepad at all.
-/

namespace VirtualPad

def gamepadCount : UInt8 := 4

/-- What can go wrong between the library and a physical gamepad. -/
inductive GamepadError where
  | invalidPlayer (player : UInt8)
  | notConnected (player : UInt8)
  | backend (reason : String)
  deriving DecidableEq, Repr

def GamepadError.message : GamepadError → String
  | .invalidPlayer p =>
    "player index " ++ toString p.toNat ++ " is outside 0.." ++ toString gamepadCount.toNat
  | .notConnected p => "physical controller " ++ toString p.toNat ++ " is not connected"
  | .backend reason => "physical controller backend error: " ++ reason

/-- Check that a player number addresses a gamepad. -/
def checkPlayer (player : UInt8) : Except GamepadError UInt8 :=
  if player < gamepadCount then .ok player else .error (.invalidPlayer player)

/-- Whether a poll of the device succeeded. -/
inductive PadStatus where
  | ok | notConnected | error
  deriving DecidableEq, Repr

/-- One direction of a stick. -/
inductive PadStick where
  | leftX | leftY | rightX | rightY
  deriving DecidableEq, Repr

def PadStick.all : List PadStick := [.leftX, .leftY, .rightX, .rightY]

def PadStick.name : PadStick → String
  | .leftX => "LeftX"
  | .leftY => "LeftY"
  | .rightX => "RightX"
  | .rightY => "RightY"

inductive PadTrigger where
  | left | right
  deriving DecidableEq, Repr

def PadTrigger.all : List PadTrigger := [.left, .right]

def PadTrigger.name : PadTrigger → String
  | .left => "LT"
  | .right => "RT"

inductive PadButton where
  | dpadUp | dpadDown | dpadLeft | dpadRight | start | back | leftStick | rightStick
  | leftShoulder | rightShoulder | a | b | x | y
  deriving DecidableEq, Repr

namespace PadButton

/-- Every button, in the order of the bits of a button word. -/
def all : List PadButton :=
  [.dpadUp, .dpadDown, .dpadLeft, .dpadRight, .start, .back, .leftStick, .rightStick,
    .leftShoulder, .rightShoulder, .a, .b, .x, .y]

def name : PadButton → String
  | .dpadUp => "DpadUp"
  | .dpadDown => "DpadDown"
  | .dpadLeft => "DpadLeft"
  | .dpadRight => "DpadRight"
  | .start => "Start"
  | .back => "Back"
  | .leftStick => "LS"
  | .rightStick => "RS"
  | .leftShoulder => "LB"
  | .rightShoulder => "RB"
  | .a => "A"
  | .b => "B"
  | .x => "X"
  | .y => "Y"

def ofName? (s : String) : Option PadButton := all.find? (·.name == s)

/-- The bit of a button in a button word. -/
def mask : PadButton → UInt16
  | .dpadUp => 0x0001
  | .dpadDown => 0x0002
  | .dpadLeft => 0x0004
  | .dpadRight => 0x0008
  | .start => 0x0010
  | .back => 0x0020
  | .leftStick => 0x0040
  | .rightStick => 0x0080
  | .leftShoulder => 0x0100
  | .rightShoulder => 0x0200
  | .a => 0x1000
  | .b => 0x2000
  | .x => 0x4000
  | .y => 0x8000

end PadButton

/-- A snapshot of a physical gamepad. -/
structure PadState where
  status : PadStatus := .notConnected
  /-- The button word: one bit for each button. -/
  buttons : UInt16 := 0
  leftX : Int16 := 0
  leftY : Int16 := 0
  rightX : Int16 := 0
  rightY : Int16 := 0
  leftTrigger : UInt8 := 0
  rightTrigger : UInt8 := 0
  deriving DecidableEq, Repr

namespace PadState

/-- A connected gamepad at rest. -/
def connected : PadState := { status := .ok }

def press (p : PadState) (button : PadButton) : PadState :=
  { p with buttons := p.buttons ||| button.mask }

def withStick (p : PadState) (s : PadStick) (value : Int16) : PadState :=
  match s with
  | .leftX => { p with leftX := value }
  | .leftY => { p with leftY := value }
  | .rightX => { p with rightX := value }
  | .rightY => { p with rightY := value }

def withTrigger (p : PadState) (t : PadTrigger) (value : UInt8) : PadState :=
  match t with
  | .left => { p with leftTrigger := value }
  | .right => { p with rightTrigger := value }

def isPressed (p : PadState) (button : PadButton) : Bool := p.buttons &&& button.mask != 0

def stick (p : PadState) : PadStick → Int16
  | .leftX => p.leftX
  | .leftY => p.leftY
  | .rightX => p.rightX
  | .rightY => p.rightY

def trigger (p : PadState) : PadTrigger → UInt8
  | .left => p.leftTrigger
  | .right => p.rightTrigger

end PadState

end VirtualPad
