/-!
# Point of view hat

A hat is four independently pressed components. Opposing components cancel, which leaves one of
eight compass directions or the centre.
-/

namespace VirtualPad

/-- A component of a hat. -/
inductive PovDirection where
  | up | down | left | right
  deriving DecidableEq, Repr

namespace PovDirection

def all : List PovDirection := [.up, .down, .left, .right]

def name : PovDirection → String
  | .up => "Up"
  | .down => "Down"
  | .left => "Left"
  | .right => "Right"

end PovDirection

/-- Which components of a hat are pressed. -/
structure PovState where
  up : Bool := false
  down : Bool := false
  left : Bool := false
  right : Bool := false
  deriving DecidableEq, Repr

namespace PovState

def centered : PovState := {}

def isPressed (p : PovState) : PovDirection → Bool
  | .up => p.up
  | .down => p.down
  | .left => p.left
  | .right => p.right

/-- Combine a component with a further press: once pressed, it stays pressed. -/
def merge (p : PovState) (d : PovDirection) (pressed : Bool) : PovState :=
  match d with
  | .up => { p with up := p.up || pressed }
  | .down => { p with down := p.down || pressed }
  | .left => { p with left := p.left || pressed }
  | .right => { p with right := p.right || pressed }

/-- The state in which exactly the listed components are pressed. -/
def ofPressed (ds : List PovDirection) : PovState := ds.foldl (fun p d => p.merge d true) centered

def pressed (p : PovState) : List PovDirection := PovDirection.all.filter p.isPressed

/-- Hundredths of a degree clockwise from north, or nothing at the centre. -/
def angle (p : PovState) : Option Nat :=
  let up := p.up && !p.down
  let down := p.down && !p.up
  let right := p.right && !p.left
  let left := p.left && !p.right
  match up, down, right, left with
  | true, _, true, _ => some 4500
  | true, _, _, true => some 31500
  | true, _, _, _ => some 0
  | _, true, true, _ => some 13500
  | _, true, _, true => some 22500
  | _, true, _, _ => some 18000
  | _, _, true, _ => some 9000
  | _, _, _, true => some 27000
  | _, _, _, _ => none

/-- Whether the components collapse to the centre. -/
def isCentered (p : PovState) : Bool := p.angle.isNone

/-- The angle in degrees with two places, or the word for the centre. -/
def label (p : PovState) : String :=
  match p.angle with
  | none => "centered"
  | some a =>
    let cents := toString (a % 100)
    toString (a / 100) ++ "." ++ (if a % 100 < 10 then "0" ++ cents else cents)

theorem isPressed_merge (p : PovState) (d e : PovDirection) (pressed : Bool) :
    (p.merge d pressed).isPressed e = (p.isPressed e || (decide (e = d) && pressed)) := by
  cases d <;> cases e <;> simp [merge, isPressed]

theorem ext_isPressed {p q : PovState} (h : ∀ d, p.isPressed d = q.isPressed d) : p = q := by
  cases p
  cases q
  simp only [mk.injEq]
  exact ⟨h .up, h .down, h .left, h .right⟩

end PovState

end VirtualPad
