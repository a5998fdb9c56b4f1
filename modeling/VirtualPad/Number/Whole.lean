import VirtualPad.Number.Scalar

/-!
# Whole numbers

Scalars that can be computed by hand. Quotients are rounded toward zero, and angles are left out.
As long as nothing is turned and every quotient is whole, forces come out as they do in floating
point.
-/

namespace VirtualPad

/-- A whole number, as a scalar. -/
structure Whole where
  value : Int
  deriving DecidableEq, Repr

instance : Scalar Whole where
  add a b := ⟨a.value + b.value⟩
  sub a b := ⟨a.value - b.value⟩
  mul a b := ⟨a.value * b.value⟩
  div a b := ⟨a.value.tdiv b.value⟩
  neg a := ⟨-a.value⟩
  ofWord n := ⟨n.toNat⟩
  lt a b := a.value < b.value
  le a b := a.value ≤ b.value
  eq a b := a = b
  hasMinus a := a.value < 0
  floor a := a
  round a := a
  sqrt a := ⟨a.value.toNat.sqrt⟩
  sin _ := ⟨0⟩
  cos _ := ⟨1⟩
  atan2 _ _ := ⟨0⟩
  degree := ⟨0⟩
  radian := ⟨57⟩
  toMotor a := UInt16.ofNat (min 65535 a.value.toNat)

instance : Precision Whole Whole := ⟨id, id⟩

end VirtualPad
