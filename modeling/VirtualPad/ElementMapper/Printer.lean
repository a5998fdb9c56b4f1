import VirtualPad.ElementMapper.Basic

/-!
# The written form of an element mapper

One canonical text for every tree. Whole-axis directions are left out and keys are written as two
hexadecimal digits.
-/

namespace VirtualPad

def hexDigit (n : Nat) : Char := if n < 10 then Char.ofNat (48 + n) else Char.ofNat (55 + n)

def hexByte (b : UInt8) : String := String.ofList [hexDigit (b.toNat / 16), hexDigit (b.toNat % 16)]

/-- An axis with its direction, which is left out when it is the whole axis. -/
def axisText (form axis : String) (d : AxisDirection) : String :=
  match d with
  | .both => form ++ "(" ++ axis ++ ")"
  | d => form ++ "(" ++ axis ++ ", " ++ d.symbol ++ ")"

namespace ElementMapper

mutual

/-- The canonical text of a tree. -/
def render : ElementMapper → String
  | .axis a d => axisText "Axis" a.name d
  | .digitalAxis a d => axisText "DigitalAxis" a.name d
  | .button b => "Button(" ++ toString b.number ++ ")"
  | .pov d => "Pov(" ++ d.name ++ ")"
  | .key code => "Keyboard(0x" ++ hexByte code ++ ")"
  | .mouseAxis a d => axisText "MouseAxis" a.name d
  | .mouseButton b => "MouseButton(" ++ b.name ++ ")"
  | .invert t => "Invert(" ++ t.render ++ ")"
  | .split p n => "Split(" ++ p.render ++ ", " ++ n.render ++ ")"
  | .compound ts => "Compound(" ++ renderAll ts ++ ")"
  | .null => "Null"

/-- The texts of several trees, with commas between them. -/
def renderAll : List ElementMapper → String
  | [] => ""
  | [t] => t.render
  | t :: ts => t.render ++ ", " ++ renderAll ts

end

end ElementMapper

end VirtualPad
