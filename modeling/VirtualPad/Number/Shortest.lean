/-!
# Shortest decimals

A binary floating point number stands for every real that rounds to it. Of the decimals among these
reals, the shortest is the one with the fewest digits, and of several of that length the nearest.
`shortest` finds it in exact arithmetic, one length after the other.

The number is `mantissa * 2 ^ exponent`. Half a unit up or down is what still rounds to it, except
below a power of two, where the unit is half as large; the ends count if the mantissa is even.
-/

namespace VirtualPad.Number

/-- A decimal: digits without a leading zero, and the power of ten that the last digit counts. -/
structure Decimal where
  digits : Nat
  exponent : Int
  deriving DecidableEq, Repr

/-- The reals that round to a floating point number, and the number itself, all in the same unit:
the bounds and the value are numerators over a common denominator. -/
structure Interval where
  low : Nat
  value : Nat
  high : Nat
  den : Nat
  /-- Whether the bounds belong to it. -/
  closed : Bool
  deriving DecidableEq, Repr

/-- The interval of a number. The flag says that the gap below is half the gap above. -/
def interval (mantissa : Nat) (exponent : Int) (halfGap : Bool) : Interval :=
  let (up, den) := if 0 ≤ exponent then (1 <<< exponent.toNat, 1) else (1, 1 <<< (-exponent).toNat)
  let closed := mantissa % 2 = 0
  let low := if halfGap then 4 * mantissa - 1 else 4 * mantissa - 2
  ⟨low * up, 4 * mantissa * up, (4 * mantissa + 2) * up, 4 * den, closed⟩

/-- An interval with its denominator multiplied by a power of ten, or divided by one. -/
def Interval.scale (i : Interval) (exponent : Int) : Interval :=
  if 0 ≤ exponent then { i with den := i.den * Nat.pow 10 exponent.toNat }
  else
    let f := Nat.pow 10 (-exponent).toNat
    { i with low := i.low * f, value := i.value * f, high := i.high * f }

/-- Whether an integer, in the unit of the interval, rounds to the number. -/
def Interval.contains (i : Interval) (n : Nat) : Bool :=
  if i.closed then i.low ≤ n * i.den && n * i.den ≤ i.high
  else i.low < n * i.den && n * i.den < i.high

/-- The integer in the interval that is nearest to the number; of two equally near the greater. -/
def Interval.nearest? (i : Interval) : Option Nat :=
  let below := i.value / i.den
  let above := below + 1
  match i.contains below, i.contains above with
  | true, true =>
    if i.value - below * i.den < above * i.den - i.value then some below else some above
  | true, false => some below
  | false, true => some above
  | false, false => none

/-- Try powers of ten downwards until one has a multiple in the interval. -/
def search (i : Interval) : Nat → Int → Option Decimal
  | 0, _ => none
  | fuel + 1, exponent =>
    match (i.scale exponent).nearest? with
    | some n => if n = 0 then search i fuel (exponent - 1) else some ⟨n, exponent⟩
    | none => search i fuel (exponent - 1)

/-- Move trailing zeros of the digits into the exponent. -/
def Decimal.normalize (d : Decimal) : Nat → Decimal
  | 0 => d
  | fuel + 1 =>
    if d.digits % 10 = 0 ∧ d.digits ≠ 0 then normalize ⟨d.digits / 10, d.exponent + 1⟩ fuel else d

/-- A decimal in positional notation, without an exponent and without a point for an integer. -/
def Decimal.positional (d : Decimal) : String :=
  let ds := Nat.toDigits 10 d.digits
  if 0 ≤ d.exponent then String.ofList (ds ++ List.replicate d.exponent.toNat '0')
  else
    let places := (-d.exponent).toNat
    let ds := List.replicate (places + 1 - ds.length) '0' ++ ds
    String.ofList (ds.take (ds.length - places) ++ '.' :: ds.drop (ds.length - places))

/-- The sign, the exponent field and the fraction field of a single precision number. -/
def fields (x : Float32) : Bool × Nat × Nat :=
  let bits := x.toBits.toNat
  (bits ≥ 0x80000000, bits / 0x800000 % 0x100, bits % 0x800000)

/-- The shortest decimal of a positive finite number, given by its exponent and fraction fields.
Powers of ten are tried from the greatest a single precision number can reach. -/
def shortest (exponent fraction : Nat) : Option Decimal :=
  let i :=
    if exponent = 0 then interval fraction (-149) false
    else interval (0x800000 + fraction) ((exponent : Int) - 150) (fraction = 0 ∧ 1 < exponent)
  (search i 90 39).map (·.normalize 40)

/-- The text of a single precision number: the fewest digits that read back, never an exponent. -/
def text (x : Float32) : String :=
  let (negative, exponent, fraction) := fields x
  let sign := if negative then "-" else ""
  if exponent = 255 then if fraction = 0 then sign ++ "inf" else "NaN"
  else if exponent = 0 ∧ fraction = 0 then sign ++ "0"
  else sign ++ ((shortest exponent fraction).map Decimal.positional).getD ""

end VirtualPad.Number
