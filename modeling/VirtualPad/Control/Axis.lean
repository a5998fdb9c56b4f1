/-!
# Axes

The six axes of a virtual controller, the part of an axis' travel that something drives or reads,
and `PerAxis`, one value for each axis. `PerAxis.get_set` and `PerAxis.ext_get` are the two facts
everything about per-axis records follows from.
-/

namespace VirtualPad

/-- An axis of a virtual controller. -/
inductive Axis where
  | x | y | z | rotX | rotY | rotZ
  deriving DecidableEq, Repr

/-- The part of an axis' travel that is driven or read: both halves, or only one of them. -/
inductive AxisDirection where
  | both | positive | negative
  deriving DecidableEq, Repr

namespace Axis

/-- Every axis, in the order in which axes are numbered. -/
def all : List Axis := [.x, .y, .z, .rotX, .rotY, .rotZ]

theorem mem_all (a : Axis) : a ∈ all := by cases a <;> decide

def name : Axis → String
  | .x => "X"
  | .y => "Y"
  | .z => "Z"
  | .rotX => "RotX"
  | .rotY => "RotY"
  | .rotZ => "RotZ"

def ofIndex? (i : Nat) : Option Axis := all[i]?

end Axis

def AxisDirection.symbol : AxisDirection → String
  | .both => "bidir"
  | .positive => "+"
  | .negative => "-"

/-- One value for each axis. -/
structure PerAxis (α : Type) where
  x : α
  y : α
  z : α
  rotX : α
  rotY : α
  rotZ : α
  deriving DecidableEq, Repr

namespace PerAxis

variable {α β : Type}

def get (v : PerAxis α) : Axis → α
  | .x => v.x
  | .y => v.y
  | .z => v.z
  | .rotX => v.rotX
  | .rotY => v.rotY
  | .rotZ => v.rotZ

def set (v : PerAxis α) (a : Axis) (value : α) : PerAxis α :=
  match a with
  | .x => { v with x := value }
  | .y => { v with y := value }
  | .z => { v with z := value }
  | .rotX => { v with rotX := value }
  | .rotY => { v with rotY := value }
  | .rotZ => { v with rotZ := value }

/-- The record whose value at every axis is given by a function. -/
def ofFn (f : Axis → α) : PerAxis α :=
  ⟨f .x, f .y, f .z, f .rotX, f .rotY, f .rotZ⟩

/-- The same value at every axis. -/
def const (value : α) : PerAxis α := ofFn fun _ => value

def map (f : α → β) (v : PerAxis α) : PerAxis β := ofFn fun a => f (v.get a)

def toList (v : PerAxis α) : List α := Axis.all.map v.get

@[simp] theorem get_ofFn (f : Axis → α) (a : Axis) : (ofFn f).get a = f a := by cases a <;> rfl

@[simp] theorem get_const (value : α) (a : Axis) : (const value).get a = value := get_ofFn _ a

@[simp] theorem get_map (f : α → β) (v : PerAxis α) (a : Axis) : (v.map f).get a = f (v.get a) :=
  get_ofFn _ a

theorem get_set (v : PerAxis α) (a b : Axis) (value : α) :
    (v.set a value).get b = if b = a then value else v.get b := by
  cases a <;> cases b <;> rfl

@[simp] theorem get_set_self (v : PerAxis α) (a : Axis) (value : α) :
    (v.set a value).get a = value := by simp [get_set]

theorem get_set_of_ne (v : PerAxis α) {a b : Axis} (h : b ≠ a) (value : α) :
    (v.set a value).get b = v.get b := by simp [get_set, h]

theorem ext_get {v w : PerAxis α} (h : ∀ a, v.get a = w.get a) : v = w := by
  cases v
  cases w
  simp only [mk.injEq]
  exact ⟨h .x, h .y, h .z, h .rotX, h .rotY, h .rotZ⟩

end PerAxis

end VirtualPad
