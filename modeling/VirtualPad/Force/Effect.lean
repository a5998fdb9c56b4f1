import VirtualPad.Control.Axis
import VirtualPad.Force.Waveform

/-!
# Effects

An effect is a signed magnitude that changes over time, and a direction. Its magnitude is worked out
at moments that are multiples of the sample period, shaped by an optional envelope at the start and
at the end, and scaled by the gain. A setter checks its argument, and answers why it has rejected
it.
-/

namespace VirtualPad

variable {V W : Type} [Scalar V] [Scalar W] [Precision V W]

open Scalar Precision

/-- The duration of an effect that never ends on its own. -/
def infiniteTime : UInt32 := 0xFFFFFFFF

/-- The greatest gain: unchanged. -/
def gainMax : UInt32 := 10000

def magnitudeMax : V := ofWord 10000

/-- A force on every axis. -/
abbrev Forces (V : Type) := PerAxis V

/-- How an effect sets in and fades out around the level it sustains. Times are in milliseconds. -/
structure Envelope (V : Type) where
  attackTime : UInt32
  attackLevel : V
  fadeTime : UInt32
  fadeLevel : V
  deriving DecidableEq

/-- Whether attack and fade fit into a duration one after the other. -/
def Envelope.fits (e : Envelope V) (duration : UInt32) : Bool :=
  duration == infiniteTime || e.attackTime.toNat + e.fadeTime.toNat ≤ duration.toNat

/-- What an effect does over time. -/
inductive EffectKind (V : Type) where
  | constant (magnitude : V)
  /-- A wave. The phase is in hundredths of a degree and the period in milliseconds. -/
  | periodic (waveform : Waveform) (amplitude offset phase : V) (period : UInt32)

def EffectKind.check : EffectKind V → Except (EffectError V) Unit
  | .constant m =>
    if within (-magnitudeMax) magnitudeMax m then .ok () else .error (.magnitude m)
  | .periodic _ amplitude offset phase period =>
    if !within zero magnitudeMax amplitude then .error (.amplitude amplitude)
    else if !within (-magnitudeMax) magnitudeMax offset then .error (.offset offset)
    else if !isAngle phase then .error (.phase phase)
    else if period = 0 then .error .period
    else .ok ()

structure Effect (V : Type) where
  id : UInt32
  kind : EffectKind V
  /-- How long the effect plays, once that has been set. Without a duration it does nothing. -/
  duration : Option UInt32
  samplePeriod : UInt32
  gain : UInt32
  envelope : Option (Envelope V)
  direction : Direction V
  /-- The axes that the components of the direction belong to. -/
  axes : List Axis

namespace Effect

/-! ## Parameters -/

/-- A new effect: no duration, full gain, no envelope, no axes. -/
def create (id : UInt32) (kind : EffectKind V) : Except (EffectError V) (Effect V) := do
  kind.check
  return {
    id, kind, duration := none, samplePeriod := 1, gain := gainMax, envelope := none,
    direction := .default, axes := [] }

def setKind (e : Effect V) (kind : EffectKind V) : Effect V × Except (EffectError V) Unit :=
  match kind.check with
  | .error err => (e, .error err)
  | .ok () => ({ e with kind }, .ok ())

/-- Set the duration. It has to hold the envelope. -/
def setDuration (e : Effect V) (duration : UInt32) : Effect V × Except (EffectError V) Unit :=
  if e.envelope.all (·.fits duration) then ({ e with duration := some duration }, .ok ())
  else (e, .error .envelopeTiming)

/-- Set the sample period in milliseconds; zero stands for one. -/
def setSamplePeriod (e : Effect V) (period : UInt32) : Effect V :=
  { e with samplePeriod := max period 1 }

def setGain (e : Effect V) (gain : UInt32) : Effect V × Except (EffectError V) Unit :=
  if gain ≤ gainMax then ({ e with gain }, .ok ()) else (e, .error (.gain gain))

/-- Set or remove the envelope. It has to fit into the duration. -/
def setEnvelope (e : Effect V) :
    Option (Envelope V) → Effect V × Except (EffectError V) Unit
  | none => ({ e with envelope := none }, .ok ())
  | some envelope =>
    if !within zero magnitudeMax envelope.attackLevel then
      (e, .error (.envelopeLevel envelope.attackLevel))
    else if !within zero magnitudeMax envelope.fadeLevel then
      (e, .error (.envelopeLevel envelope.fadeLevel))
    else if e.duration.all envelope.fits then ({ e with envelope := some envelope }, .ok ())
    else (e, .error .envelopeTiming)

def setDirection (e : Effect V) (direction : Direction V) : Effect V := { e with direction }

/-- Set the axes that the components of the direction belong to. -/
def setAxes (e : Effect V) (axes : List Axis) : Effect V × Except (EffectError V) Unit :=
  if axes = [] then (e, .error .noAxes) else ({ e with axes }, .ok ())

/-- Check that the effect can be played: it has axes, as many as its direction has components, and a
duration. -/
def checkReady (e : Effect V) : Except (EffectError V) Unit :=
  if e.axes = [] then .error .noAxes
  else if e.direction.axisCount ≠ e.axes.length then
    .error (.axisCountMismatch e.direction.axisCount e.axes.length)
  else if e.duration.isNone then .error .noDuration
  else .ok ()

/-! ## Magnitude over time -/

/-- Whether the effect is over at a time after its start. -/
def isFinishedAt (e : Effect V) (time : UInt32) : Bool := e.duration.getD 0 ≤ time

/-- How far fading has to begin before the end. Never before the start. -/
def fadeStart (duration : UInt32) (envelope : Envelope V) : UInt32 :=
  if envelope.fadeTime ≤ duration then duration - envelope.fadeTime else 0

/-- The level at a time, for an effect that sustains a given level. -/
def enveloped (e : Effect V) (time : UInt32) (sustain : V) : V :=
  match e.envelope with
  | none => sustain
  | some v =>
    let start := fadeStart (e.duration.getD 0) v
    if time < v.attackTime then
      v.attackLevel + (sustain - v.attackLevel) / ofWord v.attackTime * ofWord time
    else if start < time ∧ 0 < v.fadeTime then
      sustain + (v.fadeLevel - sustain) / ofWord v.fadeTime * ofWord (time - start)
    else sustain

/-- The magnitude at a time, before the gain. -/
def rawMagnitude (e : Effect V) (time : UInt32) : V :=
  match e.kind with
  | .constant m => if le zero m then e.enveloped time m else -e.enveloped time (-m)
  | .periodic waveform amplitude offset phase period =>
    clamp (-magnitudeMax) magnitudeMax
      (e.enveloped time amplitude * waveform.value (phaseAt time period phase) + offset)

/-- The signed magnitude at a time after the start. -/
def magnitude (e : Effect V) (time : UInt32) : V :=
  if e.isFinishedAt time then zero
  else e.rawMagnitude (time - time % e.samplePeriod) * (ofWord e.gain / ofWord gainMax)

/-- The magnitude at a time, as a force on the axes of the effect. -/
def forces (e : Effect V) (time : UInt32) : Forces V :=
  let m := e.magnitude time
  if eq m zero then .const zero
  else
    (e.axes.zip (e.direction.project m)).foldl (fun total (a, v) => total.set a (total.get a + v))
      (.const zero)

end Effect

end VirtualPad
