/-!
# Buttons

The sixteen buttons of a virtual controller. Users count them from one.
-/

namespace VirtualPad

/-- How many buttons a virtual controller can have. -/
def buttonCount : Nat := 16

/-- A button of a virtual controller, by its position counted from zero. -/
abbrev Button := Fin buttonCount

namespace Button

def all : List Button := List.finRange buttonCount

/-- The number a user knows the button by, counted from one. -/
def number (b : Button) : Nat := b.val + 1

/-- The button at a position counted from zero. -/
def ofIndex? (i : Nat) : Option Button := if h : i < buttonCount then some ⟨i, h⟩ else none

/-- The button with a number counted from one. -/
def ofNumber? : Nat → Option Button
  | 0 => none
  | n + 1 => ofIndex? n

/-- The written form of a button. -/
def label (b : Button) : String := "Button " ++ toString b.number

@[simp] theorem ofNumber?_number (b : Button) : ofNumber? b.number = some b := by
  simp [ofNumber?, ofIndex?, number]

end Button

end VirtualPad
