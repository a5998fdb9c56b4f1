import VirtualPad.Proofs.Force.Playback

/-!
# Setting the clock

A device never sees the time itself, only differences of times. So whatever a run of calls answers
and plays, it answers and plays also if the clock shows another time throughout, and it does not
matter where the clock goes round.
-/

namespace VirtualPad

variable {V W : Type} [Scalar V] [Scalar W] [Precision V W]

/-- What a call answers. -/
inductive DeviceAnswer (V : Type) where
  | done
  | found (known : Bool)
  | started (result : Except (EffectError V) Unit)
  | forces (forces : Forces V)

/-- What can be seen of a call: its answer, and what is stored and playing afterwards. -/
structure DeviceView (V : Type) where
  answer : DeviceAnswer V
  effects : OrderedMap UInt32 (Effect V)
  playing : List UInt32

/-- The call, made when the clock shows some milliseconds more. -/
def DeviceCall.later (c : UInt32) : DeviceCall V → DeviceCall V
  | .start id now => .start id (now + c)
  | .tick now => .tick (now + c)
  | x => x

namespace Device

def answer (d : Device V) : DeviceCall V → DeviceAnswer V
  | .store _ => .done
  | .remove id => .found (d.remove id).1
  | .start id now => .started (d.start id now).2
  | .stop id => .found (d.stop id).1
  | .stopAll => .done
  | .tick now => .forces (d.tick now).1

/-- What can be seen of some calls, one after the other. -/
def views (d : Device V) : List (DeviceCall V) → List (DeviceView V)
  | [] => []
  | x :: calls =>
    ⟨d.answer x, (d.perform x).effects, (d.perform x).playing.keys⟩ :: (d.perform x).views calls

/-- The device whose effects were all started some milliseconds later. -/
def later (d : Device V) (c : UInt32) : Device V := { d with playing := d.playing.map (· + c) }

omit [Scalar V] in
theorem ongoing?_later (d : Device V) (c now id start : UInt32) :
    (d.later c).ongoing? (now + c) (id, start + c) = d.ongoing? now (id, start) := by
  have helapsed : now + c - (start + c) = now - start := by grind
  simp only [ongoing?, later, helapsed]

theorem tick_later (d : Device V) (c now : UInt32) :
    (d.later c).tick (now + c) = ((d.tick now).1, (d.tick now).2.later c) := by
  have hongoing : (d.later c).playing.entries.filterMap ((d.later c).ongoing? (now + c)) =
      d.playing.entries.filterMap (d.ongoing? now) := by
    show (d.playing.entries.map _).filterMap _ = _
    rw [List.filterMap_map]
    congr 1
    funext entry
    exact d.ongoing?_later c now entry.1 entry.2
  have hplaying : (d.later c).playing.filter
        (fun entry => ((d.later c).ongoing? (now + c) entry).isSome) =
      (d.playing.filter fun entry => (d.ongoing? now entry).isSome).map (· + c) := by
    show (d.playing.map _).filter _ = _
    rw [OrderedMap.filter_map]
    congr 2
    funext entry
    rw [ongoing?_later]
  simp only [tick, hongoing, hplaying]
  rfl

omit [Scalar V] in
theorem start_later (d : Device V) (c id now : UInt32) :
    (d.later c).start id (now + c) = ((d.start id now).1.later c, (d.start id now).2) := by
  have heffects : (d.later c).effects = d.effects := rfl
  unfold start
  rw [heffects]
  cases d.effects.get? id with
  | none => rfl
  | some e =>
    dsimp only
    cases e.checkReady with
    | error err => rfl
    | ok u =>
      refine Prod.ext ?_ rfl
      show { d.later c with playing := (d.playing.map (· + c)).insert id (now + c) } = _
      rw [OrderedMap.insert_map (· + c)]
      rfl

omit [Scalar V] in
theorem erase_later (d : Device V) (c id : UInt32) :
    (d.later c).playing.erase id = (d.playing.erase id).map (· + c) := OrderedMap.filter_map ..

theorem perform_later (d : Device V) (c : UInt32) (x : DeviceCall V) :
    (d.later c).perform (x.later c) = (d.perform x).later c := by
  cases x with
  | store e => rfl
  | remove id =>
    show (⟨d.effects.erase id, (d.later c).playing.erase id⟩ : Device V) = _
    rw [erase_later]
    rfl
  | start id now =>
    rw [DeviceCall.later, perform, perform, start_later]
  | stop id =>
    show (⟨d.effects, (d.later c).playing.erase id⟩ : Device V) = _
    rw [erase_later]
    rfl
  | stopAll => rfl
  | tick now =>
    show ((d.later c).tick (now + c)).2 = _
    rw [tick_later]
    rfl

theorem answer_later (d : Device V) (c : UInt32) (x : DeviceCall V) :
    (d.later c).answer (x.later c) = d.answer x := by
  cases x with
  | store e => rfl
  | remove id => rfl
  | start id now =>
    show DeviceAnswer.started ((d.later c).start id (now + c)).2 = _
    rw [start_later, answer]
  | stop id => exact congrArg DeviceAnswer.found (OrderedMap.contains_map ..)
  | stopAll => rfl
  | tick now =>
    show DeviceAnswer.forces ((d.later c).tick (now + c)).1 = _
    rw [tick_later, answer]

theorem views_later (d : Device V) (c : UInt32) (calls : List (DeviceCall V)) :
    (d.later c).views (calls.map (·.later c)) = d.views calls := by
  induction calls generalizing d with
  | nil => rfl
  | cons x calls ih =>
    have hplaying : ((d.perform x).later c).playing.keys = (d.perform x).playing.keys :=
      OrderedMap.keys_map ..
    simp only [List.map_cons, views, answer_later, perform_later, hplaying, ih]
    rfl

/-- However far the clock is set forward, all calls of a run answer the same, and the same effects
are stored and playing after each of them. -/
theorem views_empty_later (c : UInt32) (calls : List (DeviceCall V)) :
    (empty : Device V).views (calls.map (·.later c)) = (empty : Device V).views calls :=
  views_later empty c calls

end Device

end VirtualPad
