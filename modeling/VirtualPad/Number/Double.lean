import VirtualPad.Number.Shortest

/-!
# Double precision

The number of 64 bits that a decimal rounds to, and how it is written. Everything is computed in
integers: `Double.nearest` divides a fraction by the unit of the result and rounds halves to the
even neighbour.
-/

namespace VirtualPad.Number

/-- A finite number of 64 bits without its sign: a mantissa below 2^53, times a power of two. -/
structure Double where
  mantissa : Nat
  exponent : Int
  deriving DecidableEq, Repr

namespace Double

/-- The exponent of the least number. -/
def leastExponent : Int := -1074

/-- The least mantissa of a number that is written with all of its bits. -/
def fullMantissa : Nat := 1 <<< 52

/-- The numerator and the denominator of a fraction over a power of two. -/
def scaled (num den : Nat) (exponent : Int) : Nat × Nat :=
  if 0 ≤ exponent then (num, den <<< exponent.toNat) else (num <<< (-exponent).toNat, den)

/-- The quotient of two numbers rounded to the nearest integer, of two equally near the even one. -/
def divideEven (num den : Nat) : Nat :=
  let quotient := num / den
  let rest := 2 * (num % den)
  if rest < den || (rest == den && quotient % 2 == 0) then quotient else quotient + 1

/-- The exponent of the number that a positive fraction rounds to. -/
def exponentOf (num den : Nat) : Int :=
  let estimate := (num.log2 : Int) - (den.log2 : Int) - 52
  let (n, d) := scaled num den estimate
  max leastExponent (if n < d * fullMantissa then estimate - 1 else estimate)

/-- The number that is nearest to a positive fraction. -/
def nearest (num den : Nat) : Double :=
  let exponent := exponentOf num den
  let (n, d) := scaled num den exponent
  let mantissa := divideEven n d
  if mantissa == 2 * fullMantissa then ⟨fullMantissa, exponent + 1⟩ else ⟨mantissa, exponent⟩

/-- The number that is nearest to a decimal, which is zero if the decimal is far too little. -/
def ofDecimal (d : Decimal) : Double :=
  if d.digits = 0 || (Nat.toDigits 10 d.digits).length + d.exponent ≤ -324 then ⟨0, leastExponent⟩
  else if 0 ≤ d.exponent then nearest (d.digits * Nat.pow 10 d.exponent.toNat) 1
  else nearest d.digits (Nat.pow 10 (-d.exponent).toNat)

/-- The shortest decimal that reads back as a number. Powers of ten are tried from the greatest one
that a number can reach. -/
def shortest (x : Double) : Option Decimal :=
  let halfGap := x.mantissa == fullMantissa && leastExponent < x.exponent
  (search (interval x.mantissa x.exponent halfGap) 660 309).map (·.normalize 320)

/-- The text of a number: the fewest digits that read back, no exponent, and always a point. -/
def text (x : Double) : String :=
  let digits := (x.shortest.map Decimal.positional).getD "0"
  if digits.contains '.' then digits else digits ++ ".0"

end Double

end VirtualPad.Number
