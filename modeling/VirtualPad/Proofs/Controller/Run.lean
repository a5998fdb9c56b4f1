import VirtualPad.Controller.Registration
import VirtualPad.Proofs.Event.Call
import VirtualPad.Proofs.Event.Changes

/-!
# Runs of a virtual controller

Everything a program can do with a controller is an `Operation`, and a run is a list of them. The
number that the next event gets, the time and the hub come from outside, so an operation carries
whatever they are at that moment.

`refreshVirtual_eq` says what a refresh does, in one equation for both of its outcomes. Every other
operation either changes properties or leaves alone all that the presented state depends on
(`perform_cases`), and each of them acts on the event buffer by the calls listed in `calls`
(`events_perform`).
-/

namespace VirtualPad

/-- What a program can do with a controller. Operations that only ask are left out. -/
inductive Operation (V : Type) where
  | refresh (next now : UInt32) (pad : PadState)
  | refreshVirtual (next now : UInt32) (raw : VirtualState)
  | setDeadzone (scope : AxisScope) (deadzone : UInt32)
  | setSaturation (scope : AxisScope) (saturation : UInt32)
  | setRange (scope : AxisScope) (low high : Int32)
  | setEnabled (scope : AxisScope) (enabled : Bool)
  | setGain (gain : UInt32)
  | setCapacity (capacity : Nat)
  | pop (n : Nat)
  | read (limit : Nat) (peek : Bool)
  | mute (e : Element)
  | unmute (e : Element)
  | setNotifier (notifier : Option Notifier)
  | register (hub : Hub V)
  | unregister (hub : Hub V)

variable {V : Type}

/-- The number that the next event gets, where it matters. -/
def Operation.next : Operation V → UInt32
  | .refresh next _ _ => next
  | .refreshVirtual next _ _ => next
  | _ => 0

namespace Controller

def perform (c : Controller) : Operation V → Controller
  | .refresh next now pad => (c.refresh next now pad).1.controller
  | .refreshVirtual next now raw => (c.refreshVirtual next now raw).controller
  | .setDeadzone scope deadzone => (c.setDeadzone scope deadzone).1
  | .setSaturation scope saturation => (c.setSaturation scope saturation).1
  | .setRange scope low high => (c.setRange scope low high).1
  | .setEnabled scope enabled => c.setEnabled scope enabled
  | .setGain gain => (c.setGain gain).1
  | .setCapacity capacity => c.setCapacity capacity
  | .pop n => c.popEvents n
  | .read limit peek => (c.readEvents limit peek).2.2
  | .mute e => c.mute e
  | .unmute e => c.unmute e
  | .setNotifier notifier => c.setNotifier notifier
  | .register hub => (c.register hub).2.1
  | .unregister hub => (c.unregister hub).1

def run (c : Controller) (ops : List (Operation V)) : Controller := ops.foldl perform c

/-- The raw state that an operation brings, if it is a refresh. -/
def rawOf? (mapper : Mapper) (player : UInt8) : Operation V → Option VirtualState
  | .refresh _ _ pad => some (mapper.mapState pad player.toUInt32).state
  | .refreshVirtual _ _ raw => some raw
  | _ => none

/-! ## Refreshing -/

/-- The changes that a refresh hands to the event buffer: one for each element that changes and is
not muted, in the order of the elements. -/
def reported (c : Controller) (raw : VirtualState) : List EventData :=
  (Element.all.filter fun e =>
      ¬ (c.present raw).entry e = c.state.entry e ∧ e ∉ c.muted).map (c.present raw).entry

theorem foldl_record (now : UInt32) (ds : List EventData) (c : Controller) (next : UInt32) :
    ds.foldl (record now) (c, next) =
      let calls := (ds.filter fun d => d.element ∉ c.muted).map (BufferCall.append · now)
      ({ c with events := (c.events.callAll next calls).1 }, (c.events.callAll next calls).2) := by
  induction ds generalizing c next with
  | nil => rfl
  | cons d ds ih =>
    rw [List.foldl_cons, record]
    by_cases h : d.element ∈ c.muted
    · simp [h, ih]
    · simp [h, ih, EventBuffer.callAll, EventBuffer.call]

theorem filter_changes (c : Controller) (raw : VirtualState) :
    ((c.state.changes (c.present raw)).filter fun d => d.element ∉ c.muted) = c.reported raw := by
  rw [VirtualState.changes_eq, List.filter_map, List.filter_filter, reported]
  congr 2
  funext e
  simp [Bool.and_comm]

theorem refreshVirtual_eq (c : Controller) (next now : UInt32) (raw : VirtualState) :
    c.refreshVirtual next now raw =
      let r := c.events.callAll next ((c.reported raw).map (.append · now))
      { controller := { c with raw, state := c.present raw, events := r.1 }
        next := r.2
        changed := decide (c.present raw ≠ c.state)
        signal := if c.present raw = c.state then none else c.notifier } := by
  rw [refreshVirtual]
  by_cases h : c.present raw = c.state
  · have hr : c.reported raw = [] := by simp [reported, h]
    simp [h, hr, EventBuffer.callAll]
  · rw [if_neg h, foldl_record]
    dsimp only
    rw [filter_changes]
    simp [h]

/-! ## Other operations -/

theorem setGain_eq (c : Controller) (gain : UInt32) :
    ∃ g, (c.setGain gain).1 = { c with gain := g } := by
  unfold setGain
  split
  · exact ⟨gain, rfl⟩
  · exact ⟨c.gain, rfl⟩

theorem readEvents_eq (c : Controller) (limit : Nat) (peek : Bool) :
    ∃ events, (c.readEvents limit peek).2.2 = { c with events } := by
  cases peek with
  | true => exact ⟨c.events, rfl⟩
  | false => exact ⟨c.events.pop (c.events.toList.take limit).length, rfl⟩

theorem mute_eq (c : Controller) (e : Element) : ∃ muted, c.mute e = { c with muted } := by
  unfold mute
  split
  · exact ⟨c.muted, rfl⟩
  · exact ⟨e :: c.muted, rfl⟩

theorem register_eq (c : Controller) (hub : Hub V) :
    ∃ handle, (c.register hub).2.1 = { c with handle } := by
  unfold register
  split
  · exact ⟨c.handle, rfl⟩
  · split
    · exact ⟨c.handle, rfl⟩
    · split
      · exact ⟨_, rfl⟩
      · exact ⟨c.handle, rfl⟩

theorem unregister_eq (c : Controller) (hub : Hub V) :
    ∃ handle, (c.unregister hub).1 = { c with handle } := by
  unfold unregister
  split
  · exact ⟨none, rfl⟩
  · exact ⟨c.handle, rfl⟩

theorem checked_cases (c : Controller) (scope : AxisScope)
    (update : AxisProperties → AxisProperties) (p : Prop) [Decidable p] (e : PropertyError) :
    let set : Controller × Except PropertyError Unit :=
      if p then (c.updateProperties scope update, .ok ()) else (c, .error e)
    (∃ scope update, set.1 = c.updateProperties scope update) ∨ set.1 = c := by
  by_cases h : p
  · exact .inl ⟨scope, update, by rw [if_pos h]⟩
  · exact .inr (by rw [if_neg h])

/-- What the presented state depends on is the same. -/
structure SameView (c d : Controller) : Prop where
  mapper : d.mapper = c.mapper
  player : d.player = c.player
  raw : d.raw = c.raw
  state : d.state = c.state
  properties : d.properties = c.properties

theorem sameView_of_eq {c d : Controller} {gain : UInt32} {events : EventBuffer}
    {muted : List Element} {notifier : Option Notifier} {handle : Option DeviceHandle}
    (h : d = { c with gain, events, muted, notifier, handle }) : c.SameView d := by
  subst h
  exact ⟨rfl, rfl, rfl, rfl, rfl⟩

/-- An operation is a refresh with some raw state, or changes properties, or leaves alone all that
the presented state depends on. -/
theorem perform_cases (c : Controller) (op : Operation V) :
    (∃ next now raw, rawOf? c.mapper c.player op = some raw ∧
        c.perform op = (c.refreshVirtual next now raw).controller) ∨
      (rawOf? c.mapper c.player op = none ∧
        ((∃ scope update, c.perform op = c.updateProperties scope update) ∨
          c.SameView (c.perform op))) := by
  cases op with
  | refresh next now pad => exact .inl ⟨next, now, _, rfl, rfl⟩
  | refreshVirtual next now raw => exact .inl ⟨next, now, raw, rfl, rfl⟩
  | setDeadzone scope deadzone =>
    exact .inr ⟨rfl, (c.checked_cases scope _ _ _).imp_right sameView_of_eq⟩
  | setSaturation scope saturation =>
    exact .inr ⟨rfl, (c.checked_cases scope _ _ _).imp_right sameView_of_eq⟩
  | setRange scope low high =>
    exact .inr ⟨rfl, (c.checked_cases scope _ _ _).imp_right sameView_of_eq⟩
  | setEnabled scope enabled => exact .inr ⟨rfl, .inl ⟨scope, ({ · with enabled }), rfl⟩⟩
  | setGain gain =>
    obtain ⟨g, h⟩ := c.setGain_eq gain
    exact .inr ⟨rfl, .inr (sameView_of_eq h)⟩
  | read limit peek =>
    obtain ⟨events, h⟩ := c.readEvents_eq limit peek
    exact .inr ⟨rfl, .inr (sameView_of_eq h)⟩
  | mute e =>
    obtain ⟨muted, h⟩ := c.mute_eq e
    exact .inr ⟨rfl, .inr (sameView_of_eq h)⟩
  | register hub =>
    obtain ⟨handle, h⟩ := c.register_eq hub
    exact .inr ⟨rfl, .inr (sameView_of_eq h)⟩
  | unregister hub =>
    obtain ⟨handle, h⟩ := c.unregister_eq hub
    exact .inr ⟨rfl, .inr (sameView_of_eq h)⟩
  | _ => exact .inr ⟨rfl, .inr (sameView_of_eq rfl)⟩

theorem run_concat (c : Controller) (ops : List (Operation V)) (op : Operation V) :
    c.run (ops ++ [op]) = (c.run ops).perform op := by
  rw [run, List.foldl_append]
  rfl

theorem mapper_perform (c : Controller) (op : Operation V) :
    (c.perform op).mapper = c.mapper ∧ (c.perform op).player = c.player := by
  rcases c.perform_cases op with ⟨next, now, raw, -, h⟩ | ⟨-, ⟨scope, update, h⟩ | h⟩
  · rw [h, refreshVirtual_eq]
    exact ⟨rfl, rfl⟩
  · rw [h]
    exact ⟨rfl, rfl⟩
  · exact ⟨h.mapper, h.player⟩

theorem mapper_run (c : Controller) (ops : List (Operation V)) :
    (c.run ops).mapper = c.mapper ∧ (c.run ops).player = c.player := by
  induction ops generalizing c with
  | nil => exact ⟨rfl, rfl⟩
  | cons op ops ih =>
    obtain ⟨hm, hp⟩ := c.mapper_perform op
    rw [← hm, ← hp]
    exact ih (c.perform op)

/-! ## The event buffer -/

/-- The calls by which an operation acts on the event buffer. -/
def calls (c : Controller) : Operation V → List BufferCall
  | .refresh _ now pad =>
    (c.reported (c.mapper.mapState pad c.player.toUInt32).state).map (.append · now)
  | .refreshVirtual _ now raw => (c.reported raw).map (.append · now)
  | .setCapacity capacity => [.setCapacity capacity]
  | .pop n => [.pop n]
  | .read limit peek => if peek then [] else [.pop (c.events.toList.take limit).length]
  | _ => []

theorem calls_of_refresh {c : Controller} {op : Operation V} {raw : VirtualState}
    (h : rawOf? c.mapper c.player op = some raw) :
    ∃ now, c.calls op = (c.reported raw).map (.append · now) := by
  cases op with
  | refresh next now pad =>
    obtain rfl := Option.some.inj h
    exact ⟨now, rfl⟩
  | refreshVirtual next now raw' =>
    obtain rfl := Option.some.inj h
    exact ⟨now, rfl⟩
  | _ => cases h

theorem addedAll_of_not_refresh {c : Controller} {op : Operation V}
    (h : rawOf? c.mapper c.player op = none) (b : EventBuffer) (next : UInt32) :
    b.addedAll next (c.calls op) = [] := by
  cases op with
  | refresh next now pad => cases h
  | refreshVirtual next now raw => cases h
  | read limit peek => cases peek <;> rfl
  | _ => rfl

theorem events_perform (c : Controller) (op : Operation V) :
    (c.perform op).events = (c.events.callAll op.next (c.calls op)).1 := by
  cases op with
  | refresh next now pad =>
    rw [perform, refresh]
    dsimp only
    rw [refreshVirtual_eq]
    rfl
  | refreshVirtual next now raw =>
    rw [perform, refreshVirtual_eq]
    rfl
  | setDeadzone scope deadzone =>
    rw [perform, setDeadzone]
    split <;> rfl
  | setSaturation scope saturation =>
    rw [perform, setSaturation]
    split <;> rfl
  | setRange scope low high =>
    rw [perform, setRange]
    split <;> rfl
  | setEnabled scope enabled => rfl
  | setGain gain =>
    obtain ⟨g, h⟩ := c.setGain_eq gain
    rw [perform, h]
    rfl
  | read limit peek => cases peek <;> rfl
  | mute e =>
    obtain ⟨muted, h⟩ := c.mute_eq e
    rw [perform, h]
    rfl
  | register hub =>
    obtain ⟨handle, h⟩ := c.register_eq hub
    rw [perform, h]
    rfl
  | unregister hub =>
    obtain ⟨handle, h⟩ := c.unregister_eq hub
    rw [perform, h]
    rfl
  | _ => rfl

end Controller

end VirtualPad
