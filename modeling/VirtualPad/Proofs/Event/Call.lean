import VirtualPad.Event.Buffer

/-!
# Calls on an event buffer

Whatever changes an event buffer is an append, a pop or a change of the capacity. This module says
once what such a call does: which events it adds (`added`), that the buffer keeps the latest of its
events (`Kept.call`), and when events are lost for lack of room, which is what the overflow flag
remembers (`overflowed_call`). Events that are neither stored nor lost were dropped on purpose
(`count_callAll`).
-/

namespace VirtualPad

/-- A call on an event buffer. -/
inductive BufferCall where
  | append (data : EventData) (timestamp : UInt32)
  | pop (n : Nat)
  | setCapacity (capacity : Nat)
  deriving DecidableEq

/-- Whether a call makes the buffer forget that it lost events: it pops, or disables the buffer. -/
def BufferCall.forgets : BufferCall → Bool
  | .append .. => false
  | .pop _ => true
  | .setCapacity capacity => capacity = 0

namespace EventBuffer

/-- Carry out a call. The number that the next event gets goes in and comes out. -/
def call (b : EventBuffer) (next : UInt32) : BufferCall → EventBuffer × UInt32
  | .append data timestamp => b.append next data timestamp
  | .pop n => (b.pop n, next)
  | .setCapacity capacity => (b.setCapacity capacity, next)

/-- The event that a call adds to the buffer. A disabled buffer ignores what is appended. -/
def added (b : EventBuffer) (next : UInt32) : BufferCall → List Event
  | .append data timestamp => if b.isEnabled then [⟨data, timestamp, next⟩] else []
  | .pop _ => []
  | .setCapacity _ => []

/-- How many events a call discards for lack of room: events that were stored or added and are not
stored afterwards, although the call was not made to drop any. -/
def lost (b : EventBuffer) (next : UInt32) (x : BufferCall) : Nat :=
  if x.forgets then 0 else b.count + (b.added next x).length - (b.call next x).1.count

def callAll (b : EventBuffer) (next : UInt32) (calls : List BufferCall) : EventBuffer × UInt32 :=
  calls.foldl (fun r x => r.1.call r.2 x) (b, next)

/-- The events that several calls add. -/
def addedAll (b : EventBuffer) (next : UInt32) : List BufferCall → List Event
  | [] => []
  | x :: calls =>
    b.added next x ++ (b.call next x).1.addedAll (b.call next x).2 calls

/-- How many events several calls discard for lack of room. -/
def lostAll (b : EventBuffer) (next : UInt32) : List BufferCall → Nat
  | [] => 0
  | x :: calls => b.lost next x + (b.call next x).1.lostAll (b.call next x).2 calls

/-- What holds of a buffer to which some events were added, and none besides. -/
structure Kept (b : EventBuffer) (history : List Event) : Prop where
  capacity_le : b.capacity ≤ capacityMax
  count_le : b.count ≤ b.room
  suffix : b.toList <:+ history

/-! ## What each call leaves -/

@[simp] theorem length_toList (b : EventBuffer) : b.toList.length = b.count :=
  b.events.size_eq_length.symm

theorem isEnabled_iff (b : EventBuffer) : b.isEnabled = true ↔ b.capacity ≠ 0 := by
  simp [isEnabled]

theorem append_of_disabled {b : EventBuffer} (h : b.isEnabled = false) (next : UInt32)
    (data : EventData) (timestamp : UInt32) : b.append next data timestamp = (b, next) := by
  simp [append, h]

theorem append_snd {b : EventBuffer} (h : b.isEnabled = true) (next : UInt32) (data : EventData)
    (timestamp : UInt32) : (b.append next data timestamp).2 = next + 1 := by
  rw [append, if_neg (by simp [h])]
  split
  · rfl
  · split <;> rfl

theorem capacity_append (b : EventBuffer) (next : UInt32) (data : EventData) (timestamp : UInt32) :
    (b.append next data timestamp).1.capacity = b.capacity := by
  unfold append
  split
  · rfl
  · split
    · rfl
    · split <;> rfl

/-- A buffer without room stores nothing, so what it drops is the appended event itself. -/
theorem toList_append {b : EventBuffer} (h : b.isEnabled = true) (hc : b.count ≤ b.room)
    (next : UInt32) (data : EventData) (timestamp : UInt32) :
    (b.append next data timestamp).1.toList =
      (b.toList ++ [(⟨data, timestamp, next⟩ : Event)]).drop (b.count + 1 - b.room) := by
  rw [append, if_neg (by simp [h])]
  by_cases hlt : b.count < b.room
  · rw [if_pos hlt, show b.count + 1 - b.room = 0 by omega]
    simp [toList]
  · rw [if_neg hlt]
    by_cases h0 : b.room = 0
    · have hnil : b.toList = [] := List.eq_nil_of_length_eq_zero (by simp; omega)
      rw [if_pos h0, show b.count + 1 - b.room = 1 by omega, hnil]
      exact hnil
    · have hle : 1 ≤ b.toList.length := by simp; omega
      rw [if_neg h0, show b.count + 1 - b.room = 1 by omega, List.drop_append_of_le_length hle]
      simp [toList]

theorem toList_pop (b : EventBuffer) (n : Nat) : (b.pop n).toList = b.toList.drop n := by
  simp [pop, toList]

theorem capacity_setCapacity (b : EventBuffer) (capacity : Nat) :
    (b.setCapacity capacity).capacity = min capacity capacityMax := by
  unfold setCapacity
  dsimp only
  split
  · rename_i h
    exact h.symm
  · split <;> rfl

theorem toList_setCapacity (b : EventBuffer) (capacity : Nat) :
    (b.setCapacity capacity).toList =
      b.toList.drop (b.count - (min capacity capacityMax - 1)) := by
  unfold setCapacity
  dsimp only
  split
  · rename_i h
    rw [h, List.drop_eq_nil_of_le (by simp)]
    rfl
  · split
    · rename_i h
      rw [show b.count - (min capacity capacityMax - 1) = 0 by omega]
      rfl
    · simp [toList]

theorem call_snd (b : EventBuffer) (next : UInt32) (x : BufferCall) :
    (b.call next x).2 = next + UInt32.ofNat (b.added next x).length := by
  cases x with
  | append data timestamp =>
    rw [call, added]
    cases h : b.isEnabled with
    | true => simp [append_snd h]
    | false => simp [append_of_disabled h]
  | pop n => simp [call, added]
  | setCapacity capacity => simp [call, added]

/-! ## The latest events -/

theorem Kept.empty : EventBuffer.empty.Kept [] where
  capacity_le := Nat.zero_le _
  count_le := Nat.zero_le _
  suffix := List.nil_suffix

theorem Kept.call {b : EventBuffer} {history : List Event} (h : b.Kept history) (next : UInt32)
    (x : BufferCall) : (b.call next x).1.Kept (history ++ b.added next x) := by
  have hc := h.count_le
  cases x with
  | append data timestamp =>
    rw [EventBuffer.call, added]
    cases he : b.isEnabled with
    | false => simpa [append_of_disabled he] using h
    | true =>
      have ht := toList_append he hc next data timestamp
      have hr : (b.append next data timestamp).1.room = b.room := by
        rw [room, room, capacity_append]
      refine ⟨?_, ?_, ?_⟩
      · rw [capacity_append]
        exact h.capacity_le
      · rw [hr, ← length_toList, ht]
        simp
        omega
      · rw [ht, if_pos rfl]
        exact (List.drop_suffix _ _).trans (List.suffix_append_self_iff.2 h.suffix)
  | pop n =>
    rw [EventBuffer.call, added, List.append_nil]
    refine ⟨h.capacity_le, ?_, ?_⟩
    · have hr : (b.pop n).room = b.room := rfl
      rw [hr, ← length_toList, toList_pop, List.length_drop, length_toList]
      omega
    · rw [toList_pop]
      exact (List.drop_suffix _ _).trans h.suffix
  | setCapacity capacity =>
    rw [EventBuffer.call, added, List.append_nil]
    refine ⟨?_, ?_, ?_⟩
    · rw [capacity_setCapacity]
      exact Nat.min_le_right _ _
    · rw [room, capacity_setCapacity, ← length_toList, toList_setCapacity, List.length_drop,
        length_toList]
      omega
    · rw [toList_setCapacity]
      exact (List.drop_suffix _ _).trans h.suffix

theorem Kept.toList_eq {b : EventBuffer} {history : List Event} (h : b.Kept history) :
    b.toList = history.drop (history.length - b.count) := by
  rw [← length_toList]
  exact List.suffix_iff_eq_drop.1 h.suffix

/-! ## Lost events -/

theorem forgets_of_lost {b : EventBuffer} {next : UInt32} {x : BufferCall}
    (h : 0 < b.lost next x) : x.forgets = false := by
  cases hx : x.forgets with
  | true =>
    rw [lost, if_pos hx] at h
    exact absurd h (Nat.lt_irrefl 0)
  | false => rfl

/-- An append loses an event exactly if there is no room: an older one, or its own. -/
theorem lost_append {b : EventBuffer} (h : b.isEnabled = true) (next : UInt32) (data : EventData)
    (timestamp : UInt32) :
    b.lost next (.append data timestamp) = if b.count < b.room then 0 else 1 := by
  have hc : (b.append next data timestamp).1.count =
      if b.count < b.room then b.count + 1 else b.count := by
    rw [append, if_neg (by simp [h])]
    by_cases hlt : b.count < b.room
    · rw [if_pos hlt, if_pos hlt]
      rfl
    · rw [if_neg hlt, if_neg hlt]
      by_cases h0 : b.room = 0
      · rw [if_pos h0]
        rfl
      · rw [if_neg h0]
        simp only [count, Queue.size_push, Queue.size_drop] at hlt ⊢
        omega
  rw [lost, if_neg (by simp [BufferCall.forgets]), call, added, if_pos h, hc, List.length_singleton]
  split
  · exact Nat.sub_self _
  · exact Nat.add_sub_cancel_left _ _

theorem overflowed_append {b : EventBuffer} (h : b.isEnabled = true) (next : UInt32)
    (data : EventData) (timestamp : UInt32) :
    (b.append next data timestamp).1.overflowed =
      (b.overflowed || decide (0 < b.lost next (.append data timestamp))) := by
  rw [lost_append h, append, if_neg (by simp [h])]
  by_cases hlt : b.count < b.room
  · simp [hlt]
  · rw [if_neg hlt, if_neg hlt]
    split
    · simp
    · simp

theorem lost_setCapacity (b : EventBuffer) (next : UInt32) {capacity : Nat} (h : capacity ≠ 0) :
    b.lost next (.setCapacity capacity) = b.count - (min capacity capacityMax - 1) := by
  rw [lost, call, added, if_neg (by simp [BufferCall.forgets, h]),
    ← length_toList (b.setCapacity _), toList_setCapacity, List.length_drop, length_toList,
    List.length_nil]
  omega

theorem overflowed_setCapacity (b : EventBuffer) (next : UInt32) {capacity : Nat}
    (h : capacity ≠ 0) :
    (b.setCapacity capacity).overflowed =
      (b.overflowed || decide (0 < b.lost next (.setCapacity capacity))) := by
  have hne : min capacity capacityMax ≠ 0 := by
    rw [capacityMax]
    omega
  rw [lost_setCapacity b next h, setCapacity]
  dsimp only
  rw [if_neg hne]
  split
  · rename_i hle
    simp [hle]
  · rename_i hle
    simp [Nat.sub_pos_of_lt (Nat.lt_of_not_le hle)]

theorem overflowed_call (b : EventBuffer) (next : UInt32) (x : BufferCall) :
    (b.call next x).1.overflowed =
      (!x.forgets && (b.overflowed || decide (0 < b.lost next x))) := by
  cases x with
  | append data timestamp =>
    rw [call]
    cases h : b.isEnabled with
    | true => simp [overflowed_append h, BufferCall.forgets]
    | false => simp [append_of_disabled h, lost, call, added, h, BufferCall.forgets]
  | pop n => rfl
  | setCapacity capacity =>
    rw [call]
    by_cases h : capacity = 0
    · subst h
      rfl
    · simp [overflowed_setCapacity b next h, BufferCall.forgets, h]

/-! ## Calls that lose nothing -/

theorem toList_call {b : EventBuffer} {next : UInt32} {x : BufferCall} (hf : x.forgets = false)
    (hl : b.lost next x = 0) : (b.call next x).1.toList = b.toList ++ b.added next x := by
  cases x with
  | append data timestamp =>
    rw [call, added]
    cases he : b.isEnabled with
    | false => simp [append_of_disabled he]
    | true =>
      rw [lost_append he] at hl
      have hlt : b.count < b.room := by
        by_cases h : b.count < b.room
        · exact h
        · rw [if_neg h] at hl
          exact absurd hl Nat.one_ne_zero
      rw [append, if_neg (by simp [he]), if_pos hlt]
      simp [toList]
  | pop n => exact absurd hf (by simp [BufferCall.forgets])
  | setCapacity capacity =>
    have h0 : capacity ≠ 0 := by simpa [BufferCall.forgets] using hf
    rw [lost_setCapacity b next h0] at hl
    rw [call, added, toList_setCapacity, hl, List.append_nil, List.drop_zero]

theorem toList_callAll {b : EventBuffer} {next : UInt32} {calls : List BufferCall}
    (hf : ∀ x ∈ calls, x.forgets = false) (hl : b.lostAll next calls = 0) :
    (b.callAll next calls).1.toList = b.toList ++ b.addedAll next calls := by
  induction calls generalizing b next with
  | nil => simp [callAll, addedAll]
  | cons x calls ih =>
    rw [lostAll] at hl
    have hx := toList_call (hf x List.mem_cons_self) (Nat.eq_zero_of_add_eq_zero_right hl)
    have hcalls := fun y hy => hf y (List.mem_cons_of_mem x hy)
    have ih := ih hcalls (Nat.eq_zero_of_add_eq_zero_left hl)
    rw [hx] at ih
    rw [addedAll, ← List.append_assoc]
    exact ih

theorem isEnabled_append (b : EventBuffer) (next : UInt32) (data : EventData)
    (timestamp : UInt32) : (b.append next data timestamp).1.isEnabled = b.isEnabled := by
  rw [isEnabled, isEnabled, capacity_append]

theorem data_addedAll {b : EventBuffer} (h : b.isEnabled = true) (next timestamp : UInt32)
    (ds : List EventData) :
    (b.addedAll next (ds.map (.append · timestamp))).map Event.data = ds := by
  induction ds generalizing b next with
  | nil => rfl
  | cons d ds ih =>
    rw [List.map_cons, addedAll, List.map_append, ih, added, if_pos h]
    · rfl
    · rw [call, isEnabled_append, h]

theorem data_mem_of_mem_addedAll {b : EventBuffer} {next timestamp : UInt32} {ds : List EventData}
    {e : Event} (h : e ∈ b.addedAll next (ds.map (.append · timestamp))) : e.data ∈ ds := by
  induction ds generalizing b next with
  | nil => cases h
  | cons d ds ih =>
    rw [List.map_cons, addedAll, List.mem_append] at h
    rcases h with h | h
    · rw [added] at h
      split at h
      · obtain rfl := List.mem_singleton.1 h
        exact List.mem_cons_self
      · cases h
    · exact List.mem_cons_of_mem d (ih h)

/-! ## Where events go -/

theorem toList_call_sublist (b : EventBuffer) (next : UInt32) (x : BufferCall) :
    (b.call next x).1.toList.Sublist (b.toList ++ b.added next x) := by
  cases x with
  | append data timestamp =>
    rw [call, added, append]
    cases he : b.isEnabled with
    | false => simp
    | true =>
      rw [if_neg (by simp), if_pos rfl]
      split
      · simp [toList]
      · split
        · exact List.sublist_append_left b.toList _
        · have hdrop := (List.drop_sublist 1 b.toList).append_right
            [(⟨data, timestamp, next⟩ : Event)]
          simpa [toList] using hdrop
  | pop n =>
    rw [call, added, List.append_nil, toList_pop]
    exact List.drop_sublist n b.toList
  | setCapacity capacity =>
    rw [call, added, List.append_nil, toList_setCapacity]
    exact List.drop_sublist _ b.toList

theorem toList_callAll_sublist (b : EventBuffer) (next : UInt32) (calls : List BufferCall) :
    (b.callAll next calls).1.toList.Sublist (b.toList ++ b.addedAll next calls) := by
  induction calls generalizing b next with
  | nil => simp [callAll, addedAll]
  | cons x calls ih =>
    have hx := (b.toList_call_sublist next x).append_right
      ((b.call next x).1.addedAll (b.call next x).2 calls)
    rw [addedAll, ← List.append_assoc]
    exact (ih (b.call next x).1 (b.call next x).2).trans hx

theorem count_call (b : EventBuffer) (next : UInt32) {x : BufferCall} (hf : x.forgets = false) :
    (b.call next x).1.count + b.lost next x = b.count + (b.added next x).length := by
  have hle := (b.toList_call_sublist next x).length_le
  rw [List.length_append, length_toList, length_toList] at hle
  rw [lost, if_neg (by simp [hf])]
  omega

theorem count_callAll (b : EventBuffer) (next : UInt32) {calls : List BufferCall}
    (hf : ∀ x ∈ calls, x.forgets = false) :
    (b.callAll next calls).1.count + b.lostAll next calls =
      b.count + (b.addedAll next calls).length := by
  induction calls generalizing b next with
  | nil => simp [callAll, addedAll, lostAll]
  | cons x calls ih =>
    have hx := count_call b next (hf x List.mem_cons_self)
    have hcalls := ih (b.call next x).1 (b.call next x).2 fun y hy =>
      hf y (List.mem_cons_of_mem x hy)
    have hrun : b.callAll next (x :: calls) =
        (b.call next x).1.callAll (b.call next x).2 calls := rfl
    rw [hrun, lostAll, addedAll, List.length_append]
    omega

theorem overflowed_callAll (b : EventBuffer) (next : UInt32) {calls : List BufferCall}
    (hf : ∀ x ∈ calls, x.forgets = false) :
    (b.callAll next calls).1.overflowed = true ↔
      b.overflowed = true ∨ 0 < b.lostAll next calls := by
  induction calls generalizing b next with
  | nil => simp [callAll, lostAll]
  | cons x calls ih =>
    have hx := b.overflowed_call next x
    rw [hf x List.mem_cons_self] at hx
    have hcalls := ih (b.call next x).1 (b.call next x).2 fun y hy =>
      hf y (List.mem_cons_of_mem x hy)
    have hrun : b.callAll next (x :: calls) =
        (b.call next x).1.callAll (b.call next x).2 calls := rfl
    rw [hrun, hcalls, hx, lostAll, Nat.add_pos_iff_pos_or_pos]
    simp [or_assoc]

/-! ## Calls that keep the buffer enabled -/

theorem isEnabled_call {b : EventBuffer} (h : b.isEnabled = true) (next : UInt32) {x : BufferCall}
    (hx : x ≠ .setCapacity 0) : (b.call next x).1.isEnabled = true := by
  cases x with
  | append data timestamp => rw [call, isEnabled_append, h]
  | pop n => exact h
  | setCapacity capacity =>
    have h0 : capacity ≠ 0 := by
      rintro rfl
      exact hx rfl
    rw [call, isEnabled_iff, capacity_setCapacity, capacityMax]
    omega

theorem isEnabled_callAll {b : EventBuffer} (h : b.isEnabled = true) (next : UInt32)
    {calls : List BufferCall} (hx : ∀ x ∈ calls, x ≠ .setCapacity 0) :
    (b.callAll next calls).1.isEnabled = true := by
  induction calls generalizing b next with
  | nil => exact h
  | cons x calls ih =>
    have hcall := isEnabled_call h next (hx x List.mem_cons_self)
    exact ih hcall _ fun y hy => hx y (List.mem_cons_of_mem x hy)

end EventBuffer

end VirtualPad
