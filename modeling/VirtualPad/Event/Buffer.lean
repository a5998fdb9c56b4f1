import VirtualPad.Event.Basic
import VirtualPad.Event.Queue

/-!
# Event buffers

A buffer of bounded capacity keeps the latest events. One place of it stays free, so a buffer of
capacity one takes part in the numbering of events and keeps none of them. A buffer that loses an
event for lack of room remembers that until events are popped. A buffer of capacity zero is
disabled and ignores what is appended.

Events are numbered across all buffers: the number the next event gets goes in and comes out of
`append`.
-/

namespace VirtualPad

/-- The greatest capacity of a buffer. -/
def capacityMax : Nat := 65536

/-- The latest events of one controller. -/
structure EventBuffer where
  events : Queue Event
  capacity : Nat
  overflowed : Bool

namespace EventBuffer

/-- A disabled buffer. -/
def empty : EventBuffer := ⟨.empty, 0, false⟩

/-- Whether the buffer takes part at all. -/
def isEnabled (b : EventBuffer) : Bool := b.capacity ≠ 0

def count (b : EventBuffer) : Nat := b.events.size

/-- How many events fit. -/
def room (b : EventBuffer) : Nat := b.capacity - 1

/-- The stored event with some number of older ones before it. -/
def get? (b : EventBuffer) (i : Nat) : Option Event := b.events.get? i

/-- The stored events, oldest first. -/
def toList (b : EventBuffer) : List Event := b.events.toList

/-- Append an event under the next number, and drop the oldest one if there is no room for both. -/
def append (b : EventBuffer) (next : UInt32) (data : EventData) (timestamp : UInt32) :
    EventBuffer × UInt32 :=
  if !b.isEnabled then (b, next)
  else
    let event : Event := ⟨data, timestamp, next⟩
    if b.count < b.room then ({ b with events := b.events.push event }, next + 1)
    else if b.room = 0 then ({ b with overflowed := true }, next + 1)
    else ({ b with events := (b.events.drop 1).push event, overflowed := true }, next + 1)

/-- Drop some of the oldest events and forget about lost ones. -/
def pop (b : EventBuffer) (n : Nat) : EventBuffer :=
  { b with events := b.events.drop n, overflowed := false }

/-- Change the capacity. Events that no longer fit are lost, the oldest first; a capacity of zero
empties the buffer. -/
def setCapacity (b : EventBuffer) (capacity : Nat) : EventBuffer :=
  let capacity := min capacity capacityMax
  if capacity = 0 then empty
  else
    let room := capacity - 1
    if b.count ≤ room then { b with capacity }
    else { events := b.events.drop (b.count - room), capacity, overflowed := true }

end EventBuffer

end VirtualPad
