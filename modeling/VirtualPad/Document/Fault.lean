import VirtualPad.Document.Place
import VirtualPad.Text.Quoted

/-!
# Faults of form

Why a tree of values is not what its reader wants: what was found, what was expected, and where. A
fault names the way from the whole tree to the part that is wrong, and the place of that part.
-/

namespace VirtualPad

/-- What stands where something else is expected. -/
inductive Found where
  | nothing
  | truth (value : Bool)
  | integer (value : Int)
  /-- A number with a point, as it is shown. -/
  | real (digits : String)
  | text (value : String)
  | list
  | map
  deriving DecidableEq, Repr

/-- What is wrong. -/
inductive Flaw where
  /-- It is of another kind. -/
  | kind (found : Found) (expected : String)
  /-- It is of the kind that is expected, but not one of the values. -/
  | value (found : Found) (expected : String)
  /-- A record lacks a field. -/
  | missing (field : String)
  /-- A record has a field twice. -/
  | duplicate (field : String)
  deriving DecidableEq, Repr

/-- A step from a value to a part of it. -/
inductive Step where
  | member (key : String)
  | item (index : Nat)
  /-- To what stands under a key that has no text. -/
  | unnamed
  deriving DecidableEq, Repr

/-- A flaw, where it stands, and the way to it. -/
structure FormFault where
  flaw : Flaw
  place : Option Place := none
  way : List Step := []
  deriving DecidableEq, Repr

namespace Found

/-- The text of an integer. It tells a width if it has more than 64 bits. -/
def integerText (i : Int) : String :=
  let number := "integer \x60" ++ toString i ++ "\x60"
  if Int.ofNat (1 <<< 64) ≤ i then number ++ " as u128"
  else if i < -Int.ofNat (1 <<< 63) then number ++ " as i128"
  else number

def label : Found → String
  | .nothing => "unit value"
  | .truth b => "boolean \x60" ++ toString b ++ "\x60"
  | .integer i => integerText i
  | .real digits => "floating point \x60" ++ digits ++ "\x60"
  | .text s => "string " ++ quoted s
  | .list => "sequence"
  | .map => "map"

end Found

def Flaw.message : Flaw → String
  | .kind found expected => "invalid type: " ++ found.label ++ ", expected " ++ expected
  | .value found expected => "invalid value: " ++ found.label ++ ", expected " ++ expected
  | .missing field => "missing field \x60" ++ field ++ "\x60"
  | .duplicate field => "duplicate field \x60" ++ field ++ "\x60"

def Step.label (way : Option String) : Step → String
  | .member key => (way.map (· ++ ".")).getD "" ++ key
  | .item index => way.getD "." ++ "[" ++ toString index ++ "]"
  | .unnamed => (way.map (· ++ ".")).getD "" ++ "?"

namespace FormFault

/-- The text of the way to a fault, if it is not in the whole tree. -/
def wayText (f : FormFault) : Option String :=
  f.way.foldl (fun way step => some (step.label way)) none

def message (f : FormFault) : String :=
  (f.wayText.map (· ++ ": ")).getD "" ++ f.flaw.message ++ (f.place.map Place.label).getD ""

end FormFault

end VirtualPad
