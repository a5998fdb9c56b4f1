import VirtualPad.Control.Axis
import VirtualPad.Control.Mouse
import VirtualPad.Control.Pov

/-!
# Vocabulary of the mapping language

The words the language knows: the types of element mappers, the modes of force feedback actuators,
axes, directions and mouse elements, each with every spelling that is accepted. Spelling is
case-sensitive; the common variants are listed one by one.
-/

namespace VirtualPad.Language

/-- The entry of a list one of whose spellings is the given word. -/
def lookUp? {α : Type} (entries : List α) (spellings : α → List String) (word : List Char) :
    Option α :=
  entries.find? fun entry => (spellings entry).contains (String.ofList word)

/-- A type of element mapper. -/
inductive MapperForm where
  | axis | button | compound | digitalAxis | invert | keyboard | mouseAxis | mouseButton | pov
  | null | split
  deriving DecidableEq, Repr

namespace MapperForm

def all : List MapperForm :=
  [.axis, .button, .compound, .digitalAxis, .invert, .keyboard, .mouseAxis, .mouseButton, .pov,
    .null, .split]

def spellings : MapperForm → List String
  | .axis => ["axis", "Axis"]
  | .button => ["button", "Button"]
  | .compound => ["compound", "Compound"]
  | .digitalAxis => ["digitalaxis", "digitalAxis", "Digitalaxis", "DigitalAxis"]
  | .invert => ["invert", "Invert"]
  | .keyboard => ["keyboard", "Keyboard", "keystroke", "Keystroke", "KeyStroke"]
  | .mouseAxis => ["mouseaxis", "Mouseaxis", "MouseAxis"]
  | .mouseButton => ["mousebutton", "Mousebutton", "MouseButton"]
  | .pov => ["pov", "Pov", "POV", "povhat", "povHat", "Povhat", "PovHat"]
  | .null => ["null", "Null", "nothing", "Nothing", "none", "None", "nil", "Nil"]
  | .split => ["split", "Split"]

def ofText? : List Char → Option MapperForm := lookUp? all spellings

end MapperForm

/-- A mode of a force feedback actuator. -/
inductive ActuatorForm where
  | disabled | standard | singleAxis | magnitudeProjection
  deriving DecidableEq, Repr

namespace ActuatorForm

def all : List ActuatorForm := [.disabled, .standard, .singleAxis, .magnitudeProjection]

def spellings : ActuatorForm → List String
  | .disabled =>
    ["disable", "Disable", "disabled", "Disabled", "empty", "Empty", "none", "None", "nothing",
      "Nothing", "null", "Null", "off", "Off", "unused", "Unused"]
  | .standard => ["default", "Default"]
  | .singleAxis => ["singleaxis", "SingleAxis"]
  | .magnitudeProjection => ["magnitudeprojection", "MagnitudeProjection"]

def ofText? : List Char → Option ActuatorForm := lookUp? all spellings

end ActuatorForm

def axisSpellings : Axis → List String
  | .x => ["x", "X"]
  | .y => ["y", "Y"]
  | .z => ["z", "Z"]
  | .rotX => ["rx", "Rx", "rX", "RX", "rotx", "rotX", "Rotx", "RotX"]
  | .rotY => ["ry", "Ry", "rY", "RY", "roty", "rotY", "Roty", "RotY"]
  | .rotZ => ["rz", "Rz", "rZ", "RZ", "rotz", "rotZ", "Rotz", "RotZ"]

def directionSpellings : AxisDirection → List String
  | .both =>
    ["bidir", "Bidir", "BiDir", "BIDIR", "bidirectional", "Bidirectional", "BiDirectional",
      "BIDIRECTIONAL", "both", "Both", "BOTH"]
  | .positive => ["+", "+ve", "pos", "Pos", "POS", "positive", "Positive", "POSITIVE"]
  | .negative => ["-", "-ve", "neg", "Neg", "NEG", "negative", "Negative", "NEGATIVE"]

def povSpellings : PovDirection → List String
  | .up => ["u", "U", "up", "Up", "UP"]
  | .down => ["d", "D", "dn", "Dn", "DN", "down", "Down", "DOWN"]
  | .left => ["l", "L", "lt", "Lt", "LT", "left", "Left", "LEFT"]
  | .right => ["r", "R", "rt", "Rt", "RT", "right", "Right", "RIGHT"]

def mouseAxisSpellings : MouseAxis → List String
  | .x => ["x", "X", "h", "H", "horiz", "Horiz", "horizontal", "Horizontal"]
  | .y => ["y", "Y", "v", "V", "vert", "Vert", "vertical", "Vertical"]
  | .wheelHorizontal =>
    ["wheelh", "wheelH", "WheelH", "wheelx", "wheelX", "WheelX", "wheelHorizontal",
      "WheelHorizontal"]
  | .wheelVertical =>
    ["wheelv", "wheelV", "WheelV", "wheely", "wheelY", "WheelY", "wheelVertical", "WheelVertical"]

def mouseButtonSpellings : MouseButton → List String
  | .left => ["left", "Left", "leftbutton", "Leftbutton", "LeftButton"]
  | .middle =>
    ["mid", "Mid", "middle", "Middle", "middlebutton", "Middlebutton", "MiddleButton", "wheel",
      "Wheel", "wheelbutton", "WheelButton"]
  | .right => ["right", "Right", "rightbutton", "Rightbutton", "RightButton"]
  | .x1 =>
    ["x1", "X1", "x1button", "X1Button", "back", "Back", "backbutton", "Backbutton", "BackButton"]
  | .x2 =>
    ["x2", "X2", "x2button", "X2Button", "forward", "Forward", "forwardbutton", "Forwardbutton",
      "ForwardButton"]

def axisOfText? : List Char → Option Axis := lookUp? Axis.all axisSpellings

def directionOfText? : List Char → Option AxisDirection :=
  lookUp? [.both, .positive, .negative] directionSpellings

def povOfText? : List Char → Option PovDirection := lookUp? PovDirection.all povSpellings

def mouseAxisOfText? : List Char → Option MouseAxis := lookUp? MouseAxis.all mouseAxisSpellings

def mouseButtonOfText? : List Char → Option MouseButton :=
  lookUp? MouseButton.all mouseButtonSpellings

theorem axisOfText?_name (a : Axis) : axisOfText? a.name.toList = some a := by cases a <;> rfl

theorem directionOfText?_symbol (d : AxisDirection) :
    directionOfText? d.symbol.toList = some d := by cases d <;> rfl

theorem povOfText?_name (d : PovDirection) : povOfText? d.name.toList = some d := by
  cases d <;> rfl

theorem mouseAxisOfText?_name (a : MouseAxis) : mouseAxisOfText? a.name.toList = some a := by
  cases a <;> rfl

theorem mouseButtonOfText?_name (b : MouseButton) : mouseButtonOfText? b.name.toList = some b := by
  cases b <;> rfl

end VirtualPad.Language
