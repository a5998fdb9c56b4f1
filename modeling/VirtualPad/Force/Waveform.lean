import VirtualPad.Force.Direction

/-!
# Waveforms

Periodic effects follow a waveform with values between minus one and one. Its argument is a phase in
hundredths of a degree, and `phaseAt` is the phase of a wave at a moment.
-/

namespace VirtualPad

variable {V W : Type} [Scalar V] [Scalar W] [Precision V W]

open Scalar Precision

/-- The shape of a periodic effect. -/
inductive Waveform where
  | sine | square | triangle | sawtoothUp | sawtoothDown
  deriving DecidableEq, Repr

/-- A line that rises from zero to one in half a turn and, starting again from minus one, back to
zero in the other half. -/
def sawtooth (phase : V) : V :=
  let half : V := fullTurn / ofWord 2
  if lt phase half then phase / half else phase / half - ofWord 2

namespace Waveform

def all : List Waveform := [.sine, .square, .triangle, .sawtoothUp, .sawtoothDown]

def name : Waveform → String
  | .sine => "Sine"
  | .square => "Square"
  | .triangle => "Triangle"
  | .sawtoothUp => "SawtoothUp"
  | .sawtoothDown => "SawtoothDown"

def value (w : Waveform) (phase : V) : V :=
  let quarter : V := fullTurn / ofWord 4
  let half : V := fullTurn / ofWord 2
  match w with
  | .sine => sin (phase / ofWord 100 * degree)
  | .square => if lt phase half then ofWord 1 else -ofWord 1
  | .triangle =>
    if lt phase quarter then phase / quarter
    else if lt phase (ofWord 3 * quarter) then ofWord 2 - phase / quarter
    else phase / quarter - ofWord 4
  | .sawtoothUp => sawtooth phase
  | .sawtoothDown => -sawtooth phase

end Waveform

/-- The phase of a wave at a time: a whole angle less than a full turn. Time and period are in
milliseconds, and the offset is the phase at time zero. -/
def phaseAt (time period : UInt32) (offset : V) : V :=
  let periods : W := ofWord time / ofWord period
  narrow (wrapTurn (round ((periods - floor periods) * fullTurn + widen offset)))

end VirtualPad
