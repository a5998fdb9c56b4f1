import VirtualPad.Controller.Registration

/-!
# Sessions

Several virtual controllers that share one force feedback hub. A session also holds what the
controllers number together, the events and the effects, and for each controller the inbox of the
program that reads it, which is where its signals arrive.
-/

namespace VirtualPad

/-- A channel that holds a bounded number of signals. -/
structure Channel where
  capacity : Nat
  pending : Nat
  deriving DecidableEq, Repr

/-- Where the signals of a controller arrive. -/
structure Inbox where
  /-- How often the callback was called since somebody looked. -/
  calls : Nat := 0
  channel : Option Channel := none
  deriving DecidableEq, Repr

/-- Send a signal, which a full channel drops. -/
def Channel.send (c : Channel) : Channel :=
  if c.pending < c.capacity then { c with pending := c.pending + 1 } else c

def Inbox.receive (i : Inbox) : Notifier → Inbox
  | .callback => { i with calls := i.calls + 1 }
  | .channel => { i with channel := i.channel.map Channel.send }

/-- Forget how often the callback was called. -/
def Inbox.clearCalls (i : Inbox) : Inbox := { i with calls := 0 }

/-- Open a channel, in place of the one that was there. -/
def Inbox.openChannel (i : Inbox) (capacity : Nat) : Inbox :=
  { i with channel := some ⟨capacity, 0⟩ }

/-- Take the signals out of the channel, if there is one, and count them. -/
def Inbox.drain (i : Inbox) : Option Nat × Inbox :=
  (i.channel.map Channel.pending,
    { i with channel := i.channel.map fun c => { c with pending := 0 } })

/-- A controller and the inbox of its reader. -/
structure Seat where
  controller : Controller
  inbox : Inbox

/-- Controllers that share a hub. A controller that was dropped leaves its seat empty. -/
structure Session (V : Type) where
  hub : Hub V
  seats : List (Option Seat)
  /-- The number that the next event gets. -/
  nextEvent : UInt32
  /-- The id that the next effect gets. -/
  nextEffect : UInt32

namespace Session

variable {V W : Type} [Scalar V] [Scalar W] [Precision V W]

def empty : Session V := ⟨.empty, [], 0, 1⟩

def add (s : Session V) (c : Controller) : Session V :=
  { s with seats := s.seats ++ [some ⟨c, {}⟩] }

/-- The seat at a position, if its controller is alive. -/
def seat? (s : Session V) (i : Nat) : Option Seat := (s.seats[i]?).join

def setSeat (s : Session V) (i : Nat) (seat : Option Seat) : Session V :=
  { s with seats := s.seats.set i seat }

def setController (s : Session V) (i : Nat) (seat : Seat) (c : Controller) : Session V :=
  s.setSeat i (some { seat with controller := c })

/-- Take note of a refresh: the new controller, the numbering of events, and the signal. -/
def settle (s : Session V) (i : Nat) (seat : Seat) (r : Refreshed) : Session V :=
  let inbox := (r.signal.map seat.inbox.receive).getD seat.inbox
  { s.setSeat i (some ⟨r.controller, inbox⟩) with nextEvent := r.next }

def register (s : Session V) (i : Nat) (seat : Seat) : Bool × Session V :=
  let (done, c, hub) := seat.controller.register s.hub
  (done, { s.setController i seat c with hub })

def unregister (s : Session V) (i : Nat) (seat : Seat) : Session V :=
  let (c, hub) := seat.controller.unregister s.hub
  { s.setController i seat c with hub }

/-- Drop a controller, which gives up its registration. -/
def drop (s : Session V) (i : Nat) (seat : Seat) : Session V :=
  let (_, hub) := seat.controller.unregister s.hub
  { s.setSeat i none with hub }

end Session

end VirtualPad
