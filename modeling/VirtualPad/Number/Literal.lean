/-!
# Decimal literals

The value of a number that is written in decimal, with a fraction and an exponent or without. A
negative zero keeps its sign.
-/

namespace VirtualPad.Number

/-- The value of a literal without a sign: its digits, with a point among them, and the digits of an
exponent behind a letter. -/
def magnitude? (s : List Char) : Option Float := do
  let whole := s.takeWhile Char.isDigit
  let (fraction, rest) :=
    match s.drop whole.length with
    | '.' :: rest => (rest.takeWhile Char.isDigit, rest.dropWhile Char.isDigit)
    | rest => ([], rest)
  let exponent ←
    match rest with
    | [] => some 0
    | 'e' :: '+' :: digits => (String.ofList digits).toInt?
    | 'e' :: digits => (String.ofList digits).toInt?
    | 'E' :: '+' :: digits => (String.ofList digits).toInt?
    | 'E' :: digits => (String.ofList digits).toInt?
    | _ => none
  let digits ← (String.ofList (whole ++ fraction)).toNat?
  let scale := exponent - fraction.length
  return Float.ofScientific digits (scale < 0) scale.natAbs

def ofLiteral? (literal : String) : Option Float :=
  match literal.toList with
  | '-' :: rest => (magnitude? rest).map Neg.neg
  | rest => magnitude? rest

end VirtualPad.Number
