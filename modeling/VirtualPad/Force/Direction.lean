import VirtualPad.Force.Error

/-!
# Directions of forces

A direction is stored as Cartesian components over one to three axes. It can be set and read in
Cartesian, polar and spherical coordinates; angles count in hundredths of a degree. Polar angles run
clockwise from north, spherical angles counter-clockwise from the first axis.
-/

namespace VirtualPad

variable {V W : Type} [Scalar V] [Scalar W] [Precision V W]

open Scalar Precision

/-- The most axes a direction may span. -/
def directionAxisLimit : Nat := 3

/-- A full turn in hundredths of a degree. -/
def fullTurn {α : Type} [Scalar α] : α := ofWord 36000

/-- Whether an angle may be used as a coordinate. -/
def isAngle {α : Type} [Scalar α] (a : α) : Bool := within zero (ofWord 35999) a

/-- Bring an angle of less than two turns down to less than one. -/
def wrapTurn {α : Type} [Scalar α] (a : α) : α := if le fullTurn a then a - fullTurn else a

structure Direction (V : Type) where
  components : List V
  /-- The coordinates in which the direction was last set. -/
  system : CoordinateSystem

namespace Direction

/-- One axis, pointing in the positive direction. -/
def default : Direction V := ⟨[ofWord 1], .cartesian⟩

def axisCount (d : Direction V) : Nat := d.components.length

/-- A spherical angle in radians. -/
def radians (angle : V) : W := widen angle / ofWord 100 * degree

/-- Extend a direction given over some axes by the angle towards a further axis. -/
def raise (components : List W) (angle : W) : List W :=
  components.map (· * cos angle) ++ [sin angle]

/-- The components of a direction of unit length, given by spherical angles. -/
def unitComponents : List W → List W
  | [] => []
  | a :: rest => rest.foldl raise [cos a, sin a]

/-- Components from spherical angles, in whole parts of ten thousand. -/
def ofAngles (angles : List V) : List V :=
  (unitComponents (angles.map radians)).map fun c => narrow (V := V) (round (c * ofWord 10000))

/-- Set Cartesian components: one to three, not all of them zero. -/
def setCartesian (d : Direction V) (cs : List V) : Direction V × Except (DirectionError V) Unit :=
  if cs = [] ∨ directionAxisLimit < cs.length then (d, .error (.componentCount cs.length))
  else if cs.all (eq · zero) then (d, .error .zeroVector)
  else ({ d with components := cs, system := .cartesian }, .ok ())

/-- Set a direction over two axes by a polar angle. North is three quarters of a turn. -/
def setPolar (d : Direction V) : List V → Direction V × Except (DirectionError V) Unit
  | [a] =>
    if isAngle a then
      ({ d with components := ofAngles [wrapTurn (a + ofWord 27000)], system := .polar }, .ok ())
    else (d, .error (.angleRange a))
  | angles => (d, .error (.angleCount .polar 2 1 angles.length))

/-- Set a direction by spherical angles, one fewer than it has axes. -/
def setSpherical (d : Direction V) (angles : List V) :
    Direction V × Except (DirectionError V) Unit :=
  if angles = [] ∨ directionAxisLimit ≤ angles.length then
    let axes := max 2 (min directionAxisLimit angles.length)
    (d, .error (.angleCount .spherical axes (axes - 1) angles.length))
  else
    match angles.find? (!isAngle ·) with
    | some a => (d, .error (.angleRange a))
    | none => ({ d with components := ofAngles angles, system := .spherical }, .ok ())

def set (d : Direction V) (system : CoordinateSystem) (coordinates : List V) :
    Direction V × Except (DirectionError V) Unit :=
  match system with
  | .cartesian => d.setCartesian coordinates
  | .polar => d.setPolar coordinates
  | .spherical => d.setSpherical coordinates

/-- A new direction, set by coordinates. -/
def ofCoordinates (system : CoordinateSystem) (coordinates : List V) :
    Except (DirectionError V) (Direction V) :=
  match default.set system coordinates with
  | (d, .ok ()) => .ok d
  | (_, .error e) => .error e

def norm (cs : List W) : W := sqrt (cs.foldl (fun sum c => sum + c * c) zero)

/-- A whole angle of at least zero and less than a full turn, from radians. -/
def angleOfRadians (a : W) : V :=
  let angle := round (a * radian * ofWord 100)
  narrow (if lt angle zero then angle + fullTurn else angle)

/-- The angles of a vector towards each axis but the first, from the axes before it. -/
def anglesFrom (before : List W) : List W → List W
  | [] => []
  | c :: rest => atan2 c (norm before) :: anglesFrom (before ++ [c]) rest

/-- The spherical angles of a direction over at least two axes. -/
def spherical (d : Direction V) : Except (DirectionError V) (List V) :=
  match d.components.map widen with
  | x :: y :: rest => .ok ((atan2 y x :: anglesFrom [x, y] rest).map angleOfRadians)
  | _ => .error (.unsupported .spherical)

/-- The polar angle of a direction over two axes. -/
def polar (d : Direction V) : Except (DirectionError V) V :=
  match d.components.map widen with
  | [x, y] => .ok (wrapTurn (angleOfRadians (V := V) (atan2 y x) + ofWord 9000))
  | [_] => .error (.unsupported .polar)
  | cs => .error (.angleCount .polar cs.length 1 (cs.length - 1))

/-- Split a signed magnitude among the axes, in proportion to the components. A single axis passes
the magnitude on with its own sign. -/
def project (d : Direction V) (magnitude : V) : List V :=
  match d.components with
  | [c] => [magnitude * signum c]
  | cs =>
    let length := norm (cs.map widen)
    cs.map fun c => narrow (widen magnitude * widen c / length)

end Direction

end VirtualPad
