import VirtualPad.AxisProperties
import VirtualPad.Event.Buffer
import VirtualPad.Force.Device
import VirtualPad.Mapper.Basic

/-!
# Virtual controllers

A virtual controller shows what a mapper makes of a gamepad to the programs that read it. It keeps
the raw state of the latest refresh and the state it presents, which is the raw one seen through the
properties of the axes it has. Changes of the presented state go to an event buffer, except for
muted elements, and signal whoever asked to be notified.
-/

namespace VirtualPad

/-- The greatest force feedback gain of a controller: unchanged. -/
def controllerGainMax : UInt32 := 10000

/-- Why a property is rejected. -/
inductive PropertyError where
  | deadzone (value : UInt32)
  | saturation (value : UInt32)
  | range (low high : Int32)
  | gain (value : UInt32)
  deriving DecidableEq, Repr

def PropertyError.message : PropertyError → String
  | .deadzone v =>
    "deadzone " ++ toString v.toNat ++ " is outside 0..=" ++ toString axisPropertyMax.toNat
  | .saturation v =>
    "saturation " ++ toString v.toNat ++ " is outside 0..=" ++ toString axisPropertyMax.toNat
  | .range low high =>
    "range minimum " ++ toString low.toInt ++ " must be less than range maximum " ++
      toString high.toInt
  | .gain v =>
    "force feedback gain " ++ toString v.toNat ++ " is outside 0..=" ++
      toString controllerGainMax.toNat

/-- The axes that a property is set for. -/
inductive AxisScope where
  | only (axis : Axis)
  | every
  deriving DecidableEq, Repr

def AxisScope.includes : AxisScope → Axis → Bool
  | .only a, b => a = b
  | .every, _ => true

/-- Who is told about changes: a callback, or a channel of signals. -/
inductive Notifier where
  | callback
  | channel
  deriving DecidableEq, Repr

/-- A state as seen through axis properties. Axes that are not there stay as they are. -/
def VirtualState.present (caps : Capabilities) (properties : PerAxis AxisProperties)
    (s : VirtualState) : VirtualState :=
  { s with axes := .ofFn fun a =>
      if caps.hasAxis a then (properties.get a).apply (s.axis a) else s.axis a }

structure Controller where
  /-- Tells controllers apart when they register for force feedback. -/
  id : UInt64
  player : UInt8
  mapper : Mapper
  /-- Whether the controller can register for force feedback at all. -/
  canRegister : Bool
  raw : VirtualState
  state : VirtualState
  properties : PerAxis AxisProperties
  gain : UInt32
  events : EventBuffer
  /-- The elements whose changes are not buffered. -/
  muted : List Element
  notifier : Option Notifier
  /-- The device that effects are sent to, while the controller is registered for force feedback. -/
  handle : Option DeviceHandle

/-- What a refresh leads to. -/
structure Refreshed where
  controller : Controller
  /-- The number that the next event gets. -/
  next : UInt32
  changed : Bool
  /-- Who has to be told. -/
  signal : Option Notifier

namespace Controller

/-- A controller in the neutral state. -/
def create (id : UInt64) (player : UInt8) (mapper : Mapper) (canRegister : Bool) : Controller where
  id := id
  player := player
  mapper := mapper
  canRegister := canRegister
  raw := .neutral
  state := VirtualState.neutral.present mapper.capabilities (.const {})
  properties := .const {}
  gain := controllerGainMax
  events := .empty
  muted := []
  notifier := none
  handle := none

def registered (c : Controller) : Bool := c.handle.isSome

/-- What the controller advertises. -/
def capabilities (c : Controller) : Capabilities := c.mapper.capabilities

/-- Any state as seen through the controller's axis properties. -/
def present (c : Controller) (s : VirtualState) : VirtualState :=
  s.present c.capabilities c.properties

/-! ## Refreshing -/

/-- Buffer a change, unless its element is muted. -/
def record (now : UInt32) (c : Controller × UInt32) (data : EventData) : Controller × UInt32 :=
  if data.element ∈ c.1.muted then c
  else
    let (events, next) := c.1.events.append c.2 data now
    ({ c.1 with events }, next)

/-- Make a mapped state the current raw state at a moment. -/
def refreshVirtual (c : Controller) (next now : UInt32) (raw : VirtualState) : Refreshed :=
  let after := c.present raw
  if after = c.state then ⟨{ c with raw }, next, false, none⟩
  else
    let (c', next) :=
      (c.state.changes after).foldl (record now) ({ c with raw, state := after }, next)
    ⟨c', next, true, c.notifier⟩

/-- Map a snapshot of the gamepad and make the result the current raw state. -/
def refresh (c : Controller) (next now : UInt32) (p : PadState) : Refreshed × List DesktopReport :=
  let mapped := c.mapper.mapState p c.player.toUInt32
  (c.refreshVirtual next now mapped.state, mapped.reports)

/-! ## Properties -/

/-- Change the properties of some axes, and present the raw state anew. -/
def updateProperties (c : Controller) (scope : AxisScope)
    (update : AxisProperties → AxisProperties) : Controller :=
  let properties : PerAxis AxisProperties := .ofFn fun a =>
    if scope.includes a then update (c.properties.get a) else c.properties.get a
  { c with properties, state := c.raw.present c.capabilities properties }

def setDeadzone (c : Controller) (scope : AxisScope) (deadzone : UInt32) :
    Controller × Except PropertyError Unit :=
  if deadzone ≤ axisPropertyMax then (c.updateProperties scope ({ · with deadzone }), .ok ())
  else (c, .error (.deadzone deadzone))

def setSaturation (c : Controller) (scope : AxisScope) (saturation : UInt32) :
    Controller × Except PropertyError Unit :=
  if saturation ≤ axisPropertyMax then (c.updateProperties scope ({ · with saturation }), .ok ())
  else (c, .error (.saturation saturation))

def setRange (c : Controller) (scope : AxisScope) (low high : Int32) :
    Controller × Except PropertyError Unit :=
  if low < high then
    (c.updateProperties scope ({ · with rangeMin := low, rangeMax := high }), .ok ())
  else (c, .error (.range low high))

/-- Switch deadzone, saturation and range on or off. -/
def setEnabled (c : Controller) (scope : AxisScope) (enabled : Bool) : Controller :=
  c.updateProperties scope ({ · with enabled })

def setGain (c : Controller) (gain : UInt32) : Controller × Except PropertyError Unit :=
  if gain ≤ controllerGainMax then ({ c with gain }, .ok ()) else (c, .error (.gain gain))

/-! ## Events -/

def setCapacity (c : Controller) (capacity : Nat) : Controller :=
  { c with events := c.events.setCapacity capacity }

def popEvents (c : Controller) (n : Nat) : Controller := { c with events := c.events.pop n }

/-- Read some of the oldest events, and say whether events were lost before. Unless it is only a
peek, what was read is dropped. -/
def readEvents (c : Controller) (limit : Nat) (peek : Bool) : List Event × Bool × Controller :=
  let read := c.events.toList.take limit
  (read, c.events.overflowed, if peek then c else c.popEvents read.length)

/-- Stop buffering the changes of an element. -/
def mute (c : Controller) (e : Element) : Controller :=
  if e ∈ c.muted then c else { c with muted := e :: c.muted }

/-- Buffer the changes of an element again. -/
def unmute (c : Controller) (e : Element) : Controller :=
  { c with muted := c.muted.filter (· ≠ e) }

def hears (c : Controller) (e : Element) : Bool := e ∉ c.muted

def setNotifier (c : Controller) (notifier : Option Notifier) : Controller := { c with notifier }

end Controller

end VirtualPad
