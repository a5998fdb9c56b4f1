import VirtualPad.Mapper.Basic

/-!
# Built-in layouts

The mappers that are always there.
-/

namespace VirtualPad.Layouts

/-- A whole axis follows the input. -/
def axis (a : Axis) : ElementMapper := .axis a .both

/-- A whole axis goes to the end the input is pushed to. -/
def digitalAxis (a : Axis) : ElementMapper := .digitalAxis a .both

/-- The directional pad drives the hat. -/
def hat : List (Slot × ElementMapper) :=
  [(.dpadUp, .pov .up), (.dpadDown, .pov .down), (.dpadLeft, .pov .left), (.dpadRight, .pov .right)]

/-- Slots press buttons one, two, three and so on. -/
def numbered (slots : List Slot) : List (Slot × ElementMapper) :=
  (slots.zip Button.all).map fun (s, b) => (s, .button b)

/-- The face buttons and the shoulder buttons. -/
def faceAndShoulder : List Slot :=
  [.buttonA, .buttonB, .buttonX, .buttonY, .shoulderLeft, .shoulderRight]

/-- The menu buttons and the clicks of the sticks. -/
def menuAndClick : List Slot := [.back, .start, .stickLeft, .stickRight]

/-- Ten buttons, none of them a trigger. -/
def tenButtons : List (Slot × ElementMapper) := numbered (faceAndShoulder ++ menuAndClick)

/-- Twelve buttons, the triggers among them. -/
def twelveButtons : List (Slot × ElementMapper) :=
  numbered (faceAndShoulder ++ [.triggerLeft, .triggerRight] ++ menuAndClick)

/-- The mapper that maps some slots and has its motors in their usual modes. -/
def layout (name : String) (elements : List (Slot × ElementMapper)) : Mapper where
  name := name
  elements := elements.foldl (fun m (s, t) => m.set s t) .empty
  actuators := .standard

/-- Sticks on the first three axes and the last, triggers as buttons. -/
def standardGamepad : Mapper :=
  layout "StandardGamepad" <|
    [(.stickLeftX, axis .x), (.stickLeftY, axis .y), (.stickRightX, axis .z),
      (.stickRightY, axis .rotZ)] ++ hat ++ twelveButtons

/-- The standard layout with sticks that report extremes only. -/
def digitalGamepad : Mapper :=
  layout "DigitalGamepad" <|
    [(.stickLeftX, digitalAxis .x), (.stickLeftY, digitalAxis .y), (.stickRightX, digitalAxis .z),
      (.stickRightY, digitalAxis .rotZ)] ++ hat ++ twelveButtons

/-- The standard sticks, and each trigger on an axis of its own. -/
def extendedGamepad : Mapper :=
  layout "ExtendedGamepad" <|
    [(.stickLeftX, axis .x), (.stickLeftY, axis .y), (.stickRightX, axis .z),
      (.stickRightY, axis .rotZ), (.triggerLeft, axis .rotX), (.triggerRight, axis .rotY)] ++
      hat ++ tenButtons

/-- The layout under which such gamepads present themselves. -/
def nativeGamepad : Mapper :=
  layout "XInputNative" <|
    [(.stickLeftX, axis .x), (.stickLeftY, axis .y), (.triggerLeft, axis .z),
      (.stickRightX, axis .rotX), (.stickRightY, axis .rotY), (.triggerRight, axis .rotZ)] ++
      hat ++ tenButtons

/-- The native layout with both triggers on one axis, in opposite directions. -/
def sharedTriggers : Mapper :=
  layout "XInputSharedTriggers" <|
    [(.stickLeftX, axis .x), (.stickLeftY, axis .y), (.stickRightX, axis .rotX),
      (.stickRightY, axis .rotY), (.triggerLeft, .axis .z .positive),
      (.triggerRight, .axis .z .negative)] ++ hat ++ tenButtons

/-- Nothing is mapped and no motor moves. -/
def null : Mapper := ⟨"Null", .empty, .disabled⟩

/-- Every built-in mapper. -/
def all : List Mapper :=
  [standardGamepad, digitalGamepad, extendedGamepad, nativeGamepad, sharedTriggers, null]

end VirtualPad.Layouts
