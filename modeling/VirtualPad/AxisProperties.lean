import VirtualPad.Control.State
import VirtualPad.Number.Rounding

/-!
# Axis properties

Programs that read a virtual controller can set, for each axis, a deadzone, a saturation and the
range of values they want to see. Deadzone and saturation count in parts of ten thousand of half the
travel. `AxisProperties.apply` cuts the travel into five regions at the cutoff points of both
settings on both sides and interpolates inside the two sloping ones.
-/

namespace VirtualPad

/-- The greatest deadzone and the greatest saturation: all of the half travel. -/
def axisPropertyMax : UInt32 := 10000

/-- How the values of one axis are presented. -/
structure AxisProperties where
  deadzone : UInt32 := 0
  saturation : UInt32 := axisPropertyMax
  rangeMin : Int32 := -32768
  rangeMax : Int32 := 32767
  /-- Whether deadzone, saturation and range apply at all. -/
  enabled : Bool := true
  deriving DecidableEq, Repr

namespace AxisProperties

/-- The point that lies an amount in parts of ten thousand of the way from the centre to an end of
the travel, rounded towards the centre. -/
def cutoff (travelEnd : Int) (amount : UInt32) : Int :=
  (travelEnd * min amount.toNat axisPropertyMax.toNat).tdiv axisPropertyMax.toNat

/-- The value at a position within a span, when the whole span rises by `rise`; rounded. -/
def interpolate (position rise span : Int) : Int := roundDiv (position * rise) span

/-- The middle of the range, rounded towards zero. -/
def neutral (p : AxisProperties) : Int := (p.rangeMin.toInt + p.rangeMax.toInt).tdiv 2

def apply (p : AxisProperties) (value : Int) : Int :=
  if !p.enabled then value
  else
    let low := p.rangeMin.toInt
    let high := p.rangeMax.toInt
    let saturationNegative := cutoff axisMin p.saturation
    let deadzoneNegative := cutoff axisMin p.deadzone
    let deadzonePositive := cutoff axisMax p.deadzone
    let saturationPositive := cutoff axisMax p.saturation
    if value < saturationNegative then low
    else if value < deadzoneNegative then
      low + interpolate (value - saturationNegative) (p.neutral - low)
        (deadzoneNegative - saturationNegative)
    else if value ≤ deadzonePositive then p.neutral
    else if value ≤ saturationPositive then
      p.neutral + interpolate (value - deadzonePositive) (high - p.neutral)
        (saturationPositive - deadzonePositive)
    else high

end AxisProperties

end VirtualPad
