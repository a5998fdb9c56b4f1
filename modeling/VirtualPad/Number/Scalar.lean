/-!
# Scalars

Forces are computed in floating point, in two precisions. `Scalar` is what a computation may use of
a number type, and `Precision` says how a working type goes over into a wider one and back. The
definitions that compute forces are written for any scalar, so the same definition can be run on
machine numbers and read as exact arithmetic.

A scalar may have a value that is not a number: such a value is not equal to itself, and every
comparison with it fails.
-/

namespace VirtualPad

/-- Numbers that forces can be computed with. -/
class Scalar (α : Type) extends Add α, Sub α, Mul α, Div α, Neg α where
  /-- The number nearest to a word. -/
  ofWord : UInt32 → α
  lt : α → α → Bool
  le : α → α → Bool
  eq : α → α → Bool
  /-- Whether the number carries a minus sign; a negative zero does. -/
  hasMinus : α → Bool
  floor : α → α
  /-- The nearest integer, halves away from zero. -/
  round : α → α
  sqrt : α → α
  sin : α → α
  cos : α → α
  /-- The angle of the point whose ordinate and abscissa are given. -/
  atan2 : α → α → α
  /-- How many radians make a degree. -/
  degree : α
  /-- How many degrees make a radian. -/
  radian : α
  /-- The nearest motor value, with everything out of range at the end it lies beyond. -/
  toMotor : α → UInt16

namespace Scalar

variable {α : Type} [Scalar α]

def zero : α := ofWord 0

def isNaN (a : α) : Bool := !eq a a

def abs (a : α) : α := if hasMinus a then -a else a

/-- One with the sign of a number; what is not a number stays. -/
def signum (a : α) : α :=
  if isNaN a then a else if hasMinus a then -ofWord 1 else ofWord 1

/-- The lesser of two numbers; a value that is not a number gives way to the other. -/
def least (a b : α) : α := if isNaN a then b else if lt b a then b else a

/-- The greater of two numbers; a value that is not a number gives way to the other. -/
def greatest (a b : α) : α := if isNaN a then b else if lt a b then b else a

/-- Bring a number between two bounds. What is not a number stays. -/
def clamp (low high a : α) : α := if lt a low then low else if lt high a then high else a

/-- Whether a number lies between two bounds, both included. -/
def within (low high a : α) : Bool := le low a && le a high

end Scalar

/-- A type `V` of stored numbers goes over into a wider type `W` for intermediate results. -/
class Precision (V : Type) (W : outParam Type) where
  widen : V → W
  narrow : W → V

/-- Single precision numbers. -/
instance : Scalar Float32 where
  ofWord := UInt32.toFloat32
  lt a b := decide (a < b)
  le a b := decide (a ≤ b)
  eq a b := a == b
  hasMinus a := a.toBits ≥ 0x80000000
  floor := Float32.floor
  round := Float32.round
  sqrt := Float32.sqrt
  sin := Float32.sin
  cos := Float32.cos
  atan2 := Float32.atan2
  degree := Float32.ofBits 0x3C8EFA35
  radian := Float32.ofBits 0x42652EE1
  toMotor := Float32.toUInt16

/-- Double precision numbers. -/
instance : Scalar Float where
  ofWord := UInt32.toFloat
  lt a b := decide (a < b)
  le a b := decide (a ≤ b)
  eq a b := a == b
  hasMinus a := a.toBits ≥ 0x8000000000000000
  floor := Float.floor
  round := Float.round
  sqrt := Float.sqrt
  sin := Float.sin
  cos := Float.cos
  atan2 := Float.atan2
  degree := Float.ofBits 0x3F91DF46A2529D39
  radian := Float.ofBits 0x404CA5DC1A63C1F8
  toMotor := Float.toUInt16

/-- Forces are stored in single precision and worked out in double precision where it matters. -/
instance : Precision Float32 Float where
  widen := Float32.toFloat
  narrow := Float.toFloat32

end VirtualPad
