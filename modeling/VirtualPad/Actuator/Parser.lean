import VirtualPad.Actuator.Basic
import VirtualPad.ElementMapper.Parser

/-!
# Reading actuator modes

The text of an actuator mode is one phrase without further nesting.
-/

namespace VirtualPad.ActuatorMode

open VirtualPad.Language

def plain (form : String) (mode : ActuatorMode) (params : List Char) :
    Except ParseError ActuatorMode :=
  if params = [] then .ok mode
  else .error (.within (.form form) (.extraneous (String.ofList params)))

/-- One of the two axes of a projection, with the text after it. -/
def projectionAxis (ordinal : String) (s : List Char) : Except ParseError (Axis × List Char) :=
  let p := Parameter.ofText s
  let invalid fault := .error (.within (.form "MagnitudeProjection") (.invalid fault))
  if p.first = [] then invalid (.missingProjectionAxis ordinal)
  else
    match axisOfText? p.first with
    | none => invalid (.unknownProjectionAxis (String.ofList p.first) ordinal)
    | some a => .ok (a, p.rest)

/-- Two different axes, and nothing more. -/
def projection (params : List Char) : Except ParseError ActuatorMode := do
  let (a, rest) ← projectionAxis "first" params
  let (b, rest) ← projectionAxis "second" rest
  if a = b then throw (.within (.form "MagnitudeProjection") (.invalid .equalAxes))
  if rest ≠ [] then throw (.extraneous (String.ofList rest))
  return .magnitudeProjection a b

def ofParams (form : ActuatorForm) (params : List Char) : Except ParseError ActuatorMode :=
  match form with
  | .disabled => plain "Disabled" .disabled params
  | .standard => plain "Default" .standard params
  | .singleAxis =>
    (inPlace (.form "SingleAxis") (ElementMapper.axisParams axisOfText? params)).map fun (a, d) =>
      .singleAxis a d
  | .magnitudeProjection => projection params

def ofPhrase (s : List Char) : Except ParseError ActuatorMode :=
  match Phrase.ofText? s with
  | none => .error (.malformed (String.ofList s))
  | some p =>
    if p.rest ≠ [] then .error (.malformed (String.ofList s))
    else if p.name = [] then .error .missingType
    else
      match ActuatorForm.ofText? p.name with
      | none => .error (.unknownMode (String.ofList p.name))
      | some form => ofParams form p.params

/-- Read a complete actuator mode. -/
def ofChars (s : List Char) : Except ParseError ActuatorMode :=
  match nesting? s with
  | none => .error .unbalanced
  | some depth => if 1 < depth then .error .actuatorNesting else ofPhrase s

def parse (text : String) : Except ParseError ActuatorMode := ofChars text.toList

end VirtualPad.ActuatorMode
