/-!
# Errors of the mapping language

Why a text is not an element mapper or a force feedback actuator. An error that arises inside a
parameter is wrapped in the places that lead to it, outermost first.
-/

namespace VirtualPad.Language

inductive ParameterFault where
  | missingAxis
  | unknownAxis (text : String)
  | unknownDirection (text : String)
  | missingProjectionAxis (ordinal : String)
  | unknownProjectionAxis (text ordinal : String)
  | equalAxes
  | buttonNumber (text : String) (limit : Nat)
  | scanCode (text : String) (last : Nat)
  | mouseButton (text : String)
  | povDirection (text : String)
  | tooManyChildren (limit : Nat)
  deriving DecidableEq, Repr

/-- The construct, or the parameter of a construct, in which an error arose. -/
inductive Place where
  | form (name : String)
  | parameter (name : String) (number : Nat)
  deriving DecidableEq, Repr

/-- Why a text is rejected. -/
inductive ParseError where
  | unbalanced
  | tooDeep (depth limit : Nat)
  | actuatorNesting
  /-- The text cannot be cut into a type, its parameters and what follows. -/
  | malformed (text : String)
  | missingType
  | unknownType (text : String)
  | unknownMode (text : String)
  /-- A complete expression is followed by more text. -/
  | extraneous (text : String)
  | invalid (fault : ParameterFault)
  | within (place : Place) (inner : ParseError)
  deriving DecidableEq, Repr

def ParameterFault.message : ParameterFault → String
  | .missingAxis => "Missing or unparseable axis"
  | .unknownAxis t => t ++ ": Unrecognized axis"
  | .unknownDirection t => t ++ ": Unrecognized axis direction"
  | .missingProjectionAxis o => "Missing or unparseable " ++ o ++ " axis"
  | .unknownProjectionAxis t o => t ++ ": Unrecognized " ++ o ++ " axis"
  | .equalAxes => "Axes must be different"
  | .buttonNumber t limit =>
    "Parameter \"" ++ t ++ "\" must be a number between 1 and " ++ toString limit
  | .scanCode t last => "\"" ++ t ++ "\" must map to a scan code between 0 and " ++ toString last
  | .mouseButton t => "\"" ++ t ++ "\" must map to a valid mouse button"
  | .povDirection t => t ++ ": Unrecognized POV direction"
  | .tooManyChildren limit => "Number of parameters exceeds limit of " ++ toString limit

def Place.label : Place → String
  | .form name => name
  | .parameter name number => name ++ ": Parameter " ++ toString number

namespace ParseError

/-- The text of an error, with the places that lead to it. -/
def message : ParseError → String
  | .unbalanced => "Syntax error: Unbalanced parentheses"
  | .tooDeep depth limit =>
    "Nesting depth " ++ toString depth ++ " exceeds limit of " ++ toString limit
  | .actuatorNesting => "Nesting is not allowed for force feedback actuators"
  | .malformed t => "\"" ++ t ++ "\" contains a syntax error"
  | .missingType => "Missing or unparseable element mapper type."
  | .unknownType t => t ++ ": Unrecognized element mapper type"
  | .unknownMode t => t ++ ": Unrecognized force feedback actuator mode"
  | .extraneous t => "\"" ++ t ++ "\" is extraneous"
  | .invalid fault => fault.message
  | .within place inner => place.label ++ ": " ++ inner.message

/-- The innermost error, without the places that lead to it. -/
def root : ParseError → ParseError
  | .within _ inner => inner.root
  | e => e

end ParseError

/-- Wrap the error of a failed step in the place where it arose. -/
def inPlace {α : Type} (place : Place) : Except ParseError α → Except ParseError α
  | .ok a => .ok a
  | .error e => .error (.within place e)

@[simp] theorem inPlace_ok {α : Type} (place : Place) (a : α) :
    inPlace place (.ok a) = .ok a := rfl

@[simp] theorem inPlace_error {α : Type} (place : Place) (e : ParseError) :
    inPlace place (.error e : Except ParseError α) = .error (.within place e) := rfl

theorem inPlace_eq_ok {α : Type} {place : Place} {x : Except ParseError α} {a : α} :
    inPlace place x = .ok a ↔ x = .ok a := by
  cases x <;> simp

theorem bind_eq_ok {ε α β : Type} {x : Except ε α} {f : α → Except ε β} {b : β} :
    (x >>= f) = .ok b ↔ ∃ a, x = .ok a ∧ f a = .ok b := by
  cases x with
  | ok a => simp [bind, Except.bind]
  | error e => simp [bind, Except.bind]

theorem map_eq_ok {α β : Type} {x : Except ParseError α} {f : α → β} {b : β} :
    x.map f = .ok b ↔ ∃ a, x = .ok a ∧ f a = b := by
  cases x with
  | ok a => simp [Except.map]
  | error e => simp [Except.map]

end VirtualPad.Language
