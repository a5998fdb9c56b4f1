import VirtualPad.Control.Element
import VirtualPad.Control.Pov

/-!
# Virtual state

A snapshot of a virtual controller. Axis values are integers: a mapping adds up its contributions
exactly and brings every axis into the native range once, at the end.
-/

namespace VirtualPad

/-- The least value of a native axis reading. -/
def axisMin : Int := -32768

/-- The greatest value of a native axis reading. -/
def axisMax : Int := 32767

/-- A snapshot of a virtual controller. -/
structure VirtualState where
  axes : PerAxis Int
  buttons : Vector Bool buttonCount
  pov : PovState
  deriving DecidableEq

namespace VirtualState

/-- Centred axes, released buttons, centred hat. -/
def neutral : VirtualState := ⟨.const 0, Vector.replicate buttonCount false, .centered⟩

def axis (s : VirtualState) (a : Axis) : Int := s.axes.get a

def button (s : VirtualState) (b : Button) : Bool := s.buttons[b]

def addAxis (s : VirtualState) (a : Axis) (amount : Int) : VirtualState :=
  { s with axes := s.axes.set a (s.axis a + amount) }

/-- Combine one button with a further press: once pressed, it stays pressed. -/
def mergeButton (s : VirtualState) (b : Button) (pressed : Bool) : VirtualState :=
  { s with buttons := s.buttons.set b (s.button b || pressed) }

/-- Combine one component of the hat with a further press. -/
def mergePov (s : VirtualState) (d : PovDirection) (pressed : Bool) : VirtualState :=
  { s with pov := s.pov.merge d pressed }

/-- Bring every axis into the native range. -/
def clamped (s : VirtualState) : VirtualState :=
  { s with axes := s.axes.map fun v => max axisMin (min axisMax v) }

def pressedButtons (s : VirtualState) : List Button := Button.all.filter s.button

@[simp] theorem axis_neutral (a : Axis) : neutral.axis a = 0 := PerAxis.get_const 0 a

@[simp] theorem button_neutral (b : Button) : neutral.button b = false := by
  simp [neutral, button]

@[simp] theorem isPressed_neutral (d : PovDirection) : neutral.pov.isPressed d = false := by
  cases d <;> rfl

@[simp] theorem axis_clamped (s : VirtualState) (a : Axis) :
    s.clamped.axis a = max axisMin (min axisMax (s.axis a)) := PerAxis.get_map _ _ a

@[simp] theorem button_clamped (s : VirtualState) (b : Button) :
    s.clamped.button b = s.button b := rfl

@[simp] theorem pov_clamped (s : VirtualState) : s.clamped.pov = s.pov := rfl

theorem axis_addAxis (s : VirtualState) (a b : Axis) (amount : Int) :
    (s.addAxis a amount).axis b = s.axis b + if b = a then amount else 0 := by
  simp only [addAxis, axis, PerAxis.get_set]
  split <;> simp_all

theorem button_mergeButton (s : VirtualState) (b c : Button) (pressed : Bool) :
    (s.mergeButton b pressed).button c = (s.button c || (decide (c = b) && pressed)) := by
  simp only [mergeButton, button, Fin.getElem_fin, Vector.getElem_set]
  by_cases h : b = c
  · simp [h]
  · have : b.val ≠ c.val := fun e => h (Fin.ext e)
    simp [this, Ne.symm h]

theorem ext_elements {s t : VirtualState} (ha : ∀ a, s.axis a = t.axis a)
    (hb : ∀ b, s.button b = t.button b) (hp : ∀ d, s.pov.isPressed d = t.pov.isPressed d) :
    s = t := by
  cases s with
  | mk sa sb sp =>
    cases t with
    | mk ta tb tp =>
      obtain rfl : sa = ta := PerAxis.ext_get ha
      obtain rfl : sp = tp := PovState.ext_isPressed hp
      obtain rfl : sb = tb := Vector.ext fun i hi => hb ⟨i, hi⟩
      rfl

end VirtualState

end VirtualPad
