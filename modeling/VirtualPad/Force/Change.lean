import VirtualPad.Force.Effect

/-!
# Changes of effects

The changes a program can make to an effect, as values. A run of changes stops at the first one that
is rejected.
-/

namespace VirtualPad

variable {V W : Type} [Scalar V] [Scalar W] [Precision V W]

inductive EffectChange (V : Type) where
  | kind (kind : EffectKind V)
  | duration (duration : UInt32)
  | samplePeriod (period : UInt32)
  | gain (gain : UInt32)
  | envelope (envelope : Option (Envelope V))
  | axes (axes : List Axis)
  | direction (system : CoordinateSystem) (coordinates : List V)

/-- Why a change is rejected. -/
inductive ChangeError (V : Type) where
  | effect (error : EffectError V)
  | direction (error : DirectionError V)

namespace Effect

/-- What a setter has done, where its error is that of a change. -/
def asChange (r : Effect V × Except (EffectError V) Unit) :
    Effect V × Except (ChangeError V) Unit :=
  (r.1, r.2.mapError .effect)

/-- Make a change. A direction is set by itself before the effect gets it. -/
def change (e : Effect V) : EffectChange V → Effect V × Except (ChangeError V) Unit
  | .kind kind => asChange (e.setKind kind)
  | .duration duration => asChange (e.setDuration duration)
  | .samplePeriod period => (e.setSamplePeriod period, .ok ())
  | .gain gain => asChange (e.setGain gain)
  | .envelope envelope => asChange (e.setEnvelope envelope)
  | .axes axes => asChange (e.setAxes axes)
  | .direction system coordinates =>
    match Direction.ofCoordinates system coordinates with
    | .ok direction => (e.setDirection direction, .ok ())
    | .error err => (e, .error (.direction err))

/-- Make several changes, and stop at the first one that is rejected. -/
def changeAll (e : Effect V) : List (EffectChange V) → Effect V × Except (ChangeError V) Unit
  | [] => (e, .ok ())
  | c :: cs =>
    match e.change c with
    | (e, .ok ()) => e.changeAll cs
    | (e, .error err) => (e, .error err)

end Effect

end VirtualPad
