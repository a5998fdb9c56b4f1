import VirtualPad.Number.Scalar

/-!
# Errors of force feedback

Why an effect parameter or a direction is rejected. The numbers an error speaks of are of the type
that the effect is stored in, so the texts are given relative to a way of writing such numbers.
-/

namespace VirtualPad

/-- The coordinates a direction can be given in. -/
inductive CoordinateSystem where
  | cartesian | polar | spherical
  deriving DecidableEq, Repr

def CoordinateSystem.name : CoordinateSystem → String
  | .cartesian => "cartesian"
  | .polar => "polar"
  | .spherical => "spherical"

/-- Why an effect parameter is rejected, or why an effect cannot be started. -/
inductive EffectError (V : Type) where
  | magnitude (value : V)
  | amplitude (value : V)
  | offset (value : V)
  | phase (value : V)
  | period
  | gain (value : UInt32)
  | envelopeLevel (value : V)
  | envelopeTiming
  | noAxes
  | noDuration
  | axisCountMismatch (direction axes : Nat)
  | unknownEffect (id : UInt32)
  deriving DecidableEq, Repr

/-- Why coordinates are not a direction, or why a direction has no coordinates in a system. -/
inductive DirectionError (V : Type) where
  | componentCount (count : Nat)
  | zeroVector
  | angleRange (value : V)
  | angleCount (system : CoordinateSystem) (axes expected actual : Nat)
  | unsupported (system : CoordinateSystem)
  deriving DecidableEq, Repr

def EffectError.message {V : Type} (text : V → String) : EffectError V → String
  | .magnitude v => "magnitude " ++ text v ++ " is outside -10000..=10000"
  | .amplitude v => "amplitude " ++ text v ++ " is outside 0..=10000"
  | .offset v => "offset " ++ text v ++ " is outside -10000..=10000"
  | .phase v => "phase " ++ text v ++ " is outside 0..=35999"
  | .period => "period must be at least 1 ms"
  | .gain v => "gain " ++ toString v.toNat ++ " is outside 0..=10000"
  | .envelopeLevel v => "envelope level " ++ text v ++ " is outside 0..=10000"
  | .envelopeTiming => "envelope attack and fade times exceed the effect duration"
  | .noAxes => "effect has no associated axes"
  | .noDuration => "effect has no duration"
  | .axisCountMismatch d a =>
    "effect direction spans " ++ toString d ++ " axes but " ++ toString a ++
      " axes are associated"
  | .unknownEffect id => "effect " ++ toString id.toNat ++ " is not stored on this device"

def DirectionError.message {V : Type} (text : V → String) : DirectionError V → String
  | .componentCount n => "direction needs 1 to 3 components, got " ++ toString n
  | .zeroVector => "cartesian direction must have at least one non-zero component"
  | .angleRange v => "angle " ++ text v ++ " is outside 0..=35999"
  | .angleCount system axes expected actual =>
    system.name ++ " coordinates need " ++ toString expected ++ " angles for " ++ toString axes ++
      " axes, got " ++ toString actual
  | .unsupported system =>
    system.name ++ " coordinates are not defined for a single axis"

end VirtualPad
