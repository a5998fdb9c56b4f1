import VirtualPad.ElementMapper.Basic
import VirtualPad.Language.Error
import VirtualPad.Language.Numeral
import VirtualPad.Language.Phrase
import VirtualPad.Language.ScanCode
import VirtualPad.Language.Vocabulary

/-!
# Reading element mappers

Balance and nesting of the parentheses are checked on the whole text first. After that a text is cut
into phrases, and each phrase is read by the rules of its type. The child of a phrase is the first
phrase of its parameters, so nothing has to be cut twice.
-/

namespace VirtualPad

open VirtualPad.Language

namespace ElementMapper

/-- The deepest nesting of parentheses the text of an element mapper may have. -/
def nestingLimit : Nat := 4

def keyCount : Nat := 256

/-- An axis and an optional direction. -/
def axisParams {α : Type} (axisOf? : List Char → Option α) (params : List Char) :
    Except ParseError (α × AxisDirection) :=
  let axis := Parameter.ofText params
  if axis.first = [] then .error (.invalid .missingAxis)
  else
    match axisOf? axis.first with
    | none => .error (.invalid (.unknownAxis (String.ofList axis.first)))
    | some a =>
      let direction := Parameter.ofText axis.rest
      let d? := if direction.first = [] then some .both else directionOfText? direction.first
      match d? with
      | none => .error (.invalid (.unknownDirection (String.ofList direction.first)))
      | some d =>
        if direction.rest = [] then .ok (a, d)
        else .error (.extraneous (String.ofList direction.rest))

/-- The value of a parameter, or the fault of a construct that it does not have one. -/
def required {α : Type} (form : String) (value : Option α) (fault : ParameterFault) :
    Except ParseError α :=
  match value with
  | some a => .ok a
  | none => .error (.within (.form form) (.invalid fault))

def buttonOfParams (params : List Char) : Except ParseError ElementMapper :=
  (required "Button" ((decimal? params).bind Button.ofNumber?)
    (.buttonNumber (String.ofList params) buttonCount)).map .button

/-- The scan code that a name or a number stands for. -/
def keyOfParams? (params : List Char) : Option UInt8 :=
  match scanCode? params with
  | some code => some code
  | none => (number? params).bind fun n => if n < keyCount then some (UInt8.ofNat n) else none

/-- Read the parameters of a mapper that has no child. -/
def leafOfParams (form : MapperForm) (params : List Char) : Except ParseError ElementMapper :=
  let text := String.ofList params
  match form with
  | .axis => (inPlace (.form "Axis") (axisParams axisOfText? params)).map fun (a, d) => .axis a d
  | .digitalAxis =>
    (inPlace (.form "DigitalAxis") (axisParams axisOfText? params)).map fun (a, d) =>
      .digitalAxis a d
  | .mouseAxis =>
    (inPlace (.form "MouseAxis") (axisParams mouseAxisOfText? params)).map fun (a, d) =>
      .mouseAxis a d
  | .button => buttonOfParams params
  | .keyboard =>
    (required "Keyboard" (keyOfParams? params) (.scanCode text (keyCount - 1))).map .key
  | .mouseButton =>
    (required "MouseButton" (mouseButtonOfText? params) (.mouseButton text)).map .mouseButton
  | .pov => (required "Pov" (povOfText? params) (.povDirection text)).map .pov
  | _ => if params = [] then .ok .null else .error (.within (.form "Null") (.extraneous text))

/-- A phrase whose type is known, together with the fact that it is smaller than the text it was cut
from. -/
structure Cut (s : List Char) where
  form : MapperForm
  params : List Char
  rest : List Char
  params_lt : params.length < s.length
  rest_lt : rest.length < s.length

/-- Cut the first phrase off a text and recognize its type. -/
def cut (s : List Char) : Except ParseError (Cut s) :=
  match h : Phrase.ofText? s with
  | none => .error (.malformed (String.ofList s))
  | some p =>
    if hn : p.name = [] then .error .missingType
    else
      match MapperForm.ofText? p.name with
      | none => .error (.unknownType (String.ofList p.name))
      | some form => .ok ⟨form, p.params, p.rest, Phrase.params_lt h hn, Phrase.rest_lt h hn⟩

/-- Fail if a construct is followed by more text. -/
def noMore (form : String) (rest : List Char) : Except ParseError Unit :=
  if rest = [] then .ok () else .error (.within (.form form) (.extraneous (String.ofList rest)))

mutual

/-- Read the parameters of a mapper of a known type. -/
def ofParams (form : MapperForm) (params : List Char) : Except ParseError ElementMapper :=
  match form with
  | .invert => do
    let c ← inPlace (.parameter "Invert" 1) (cut params)
    let child ← inPlace (.parameter "Invert" 1) (ofParams c.form c.params)
    noMore "Invert" c.rest
    return .invert child
  | .split => do
    let c ← inPlace (.parameter "Split" 1) (cut params)
    let positive ← inPlace (.parameter "Split" 1) (ofParams c.form c.params)
    let d ← inPlace (.parameter "Split" 2) (cut c.rest)
    let negative ← inPlace (.parameter "Split" 2) (ofParams d.form d.params)
    noMore "Split" d.rest
    return .split positive negative
  | .compound => (children 1 params).map .compound
  | form => leafOfParams form params
termination_by 2 * params.length + 1
decreasing_by
  · have := c.params_lt
    omega
  · have := c.params_lt
    omega
  · have := c.rest_lt
    have := d.params_lt
    omega
  · omega

/-- Read the children of a compound mapper, from the child with a given number on. -/
def children (number : Nat) (s : List Char) : Except ParseError (List ElementMapper) := do
  if childLimit < number then
    throw (.within (.form "Compound") (.invalid (.tooManyChildren childLimit)))
  let c ← inPlace (.parameter "Compound" number) (cut s)
  let child ← inPlace (.parameter "Compound" number) (ofParams c.form c.params)
  if c.rest = [] then return [child]
  return child :: (← children (number + 1) c.rest)
termination_by 2 * s.length
decreasing_by
  · have := c.params_lt
    omega
  · have := c.rest_lt
    omega

end

/-- Read the first mapper of a text, and return it with the text that follows it. -/
def first (s : List Char) : Except ParseError (ElementMapper × List Char) := do
  let c ← cut s
  let mapper ← ofParams c.form c.params
  return (mapper, c.rest)

def ofChars (s : List Char) : Except ParseError ElementMapper :=
  match nesting? s with
  | none => .error .unbalanced
  | some depth =>
    if nestingLimit < depth then .error (.tooDeep depth nestingLimit)
    else
      match first s with
      | .error e => .error e
      | .ok (mapper, rest) =>
        if rest = [] then .ok mapper else .error (.extraneous (String.ofList rest))

/-- Read a complete element mapper. The null mapper has a text of its own. -/
def parse (text : String) : Except ParseError ElementMapper := ofChars text.toList

end ElementMapper

end VirtualPad
