import VirtualPad.Control.State
import VirtualPad.Number.Rounding
import VirtualPad.Reading

/-!
# Shaping raw readings

A deadzone and a saturation, both in percent of the travel, applied to stick and trigger values.
Travel below the deadzone reads as rest, travel beyond the saturation as the end, and what lies
between is stretched over the whole scale.
-/

namespace VirtualPad

/-- Stretch a magnitude so that deadzone to saturation spans zero to full scale. What lies beyond
the saturation exceeds the full scale; the caller brings it back to its own range. -/
def stretch (magnitude scale deadzone saturation : Nat) : Nat :=
  let low := scale * min deadzone 100 / 100
  let high := scale * min saturation 100 / 100
  if magnitude ≤ low then 0
  else if high ≤ low then scale + 1
  else (roundDiv ((magnitude - low) * scale : Nat) ((high - low : Nat) : Int)).toNat

/-- Apply deadzone and saturation percentages to a stick value. -/
def shapeStick (value : Int16) (deadzone saturation : UInt32) : Int16 :=
  if deadzone = 0 ∧ 100 ≤ saturation then value
  else
    let stretched : Int :=
      stretch value.toInt.natAbs axisMax.toNat deadzone.toNat saturation.toNat
    if value.toInt < 0 then Int16.ofInt (max (-stretched) axisMin)
    else Int16.ofInt (min stretched axisMax)

/-- Apply deadzone and saturation percentages to a trigger value. -/
def shapeTrigger (value : UInt8) (deadzone saturation : UInt32) : UInt8 :=
  if deadzone = 0 ∧ 100 ≤ saturation then value
  else
    UInt8.ofNat (min (stretch value.toNat triggerMax.toNat deadzone.toNat saturation.toNat)
      triggerMax.toNat)

end VirtualPad
