import VirtualPad.Gamepad
import VirtualPad.Reading

/-!
# Slots

The twenty inputs of a gamepad to which something can be mapped, and the reading that a snapshot
holds for each. Sticks point up in a snapshot and down on a virtual axis, so the vertical ones are
negated on the way.
-/

namespace VirtualPad

/-- An input of a gamepad. -/
inductive Slot where
  | stickLeftX | stickLeftY | stickRightX | stickRightY
  | dpadUp | dpadDown | dpadLeft | dpadRight
  | triggerLeft | triggerRight
  | buttonA | buttonB | buttonX | buttonY
  | shoulderLeft | shoulderRight | back | start | stickLeft | stickRight
  deriving DecidableEq, Repr

namespace Slot

def all : List Slot :=
  [.stickLeftX, .stickLeftY, .stickRightX, .stickRightY, .dpadUp, .dpadDown, .dpadLeft, .dpadRight,
    .triggerLeft, .triggerRight, .buttonA, .buttonB, .buttonX, .buttonY, .shoulderLeft,
    .shoulderRight, .back, .start, .stickLeft, .stickRight]

theorem mem_all (s : Slot) : s ∈ all := by cases s <;> decide

theorem nodup_all : all.Nodup := by decide

def index (s : Slot) : Nat := all.idxOf s

def name : Slot → String
  | .stickLeftX => "StickLeftX"
  | .stickLeftY => "StickLeftY"
  | .stickRightX => "StickRightX"
  | .stickRightY => "StickRightY"
  | .dpadUp => "DpadUp"
  | .dpadDown => "DpadDown"
  | .dpadLeft => "DpadLeft"
  | .dpadRight => "DpadRight"
  | .triggerLeft => "TriggerLT"
  | .triggerRight => "TriggerRT"
  | .buttonA => "ButtonA"
  | .buttonB => "ButtonB"
  | .buttonX => "ButtonX"
  | .buttonY => "ButtonY"
  | .shoulderLeft => "ButtonLB"
  | .shoulderRight => "ButtonRB"
  | .back => "ButtonBack"
  | .start => "ButtonStart"
  | .stickLeft => "ButtonLS"
  | .stickRight => "ButtonRS"

def ofName? (s : String) : Option Slot := all.find? (·.name == s)

theorem ofName?_eq_some_iff {text : String} {s : Slot} : ofName? text = some s ↔ text = s.name := by
  constructor
  · intro h
    have hname := List.find?_some (p := fun s : Slot => s.name == text) h
    exact (beq_iff_eq.mp hname).symm
  · rintro rfl
    cases s <;> rfl

/-- The reading of a slot in a snapshot of a connected gamepad. -/
def readingOf (p : PadState) : Slot → Reading
  | .stickLeftX => .stick p.leftX
  | .stickLeftY => .stick (negateStick p.leftY)
  | .stickRightX => .stick p.rightX
  | .stickRightY => .stick (negateStick p.rightY)
  | .triggerLeft => .trigger p.leftTrigger
  | .triggerRight => .trigger p.rightTrigger
  | .dpadUp => .button (p.isPressed .dpadUp)
  | .dpadDown => .button (p.isPressed .dpadDown)
  | .dpadLeft => .button (p.isPressed .dpadLeft)
  | .dpadRight => .button (p.isPressed .dpadRight)
  | .buttonA => .button (p.isPressed .a)
  | .buttonB => .button (p.isPressed .b)
  | .buttonX => .button (p.isPressed .x)
  | .buttonY => .button (p.isPressed .y)
  | .shoulderLeft => .button (p.isPressed .leftShoulder)
  | .shoulderRight => .button (p.isPressed .rightShoulder)
  | .back => .button (p.isPressed .back)
  | .start => .button (p.isPressed .start)
  | .stickLeft => .button (p.isPressed .leftStick)
  | .stickRight => .button (p.isPressed .rightStick)

/-- The reading of a slot in a snapshot. Without a connected gamepad every slot is at rest. -/
def reading (p : PadState) (s : Slot) : Reading :=
  if p.status = .ok then s.readingOf p else .rest

end Slot

end VirtualPad
