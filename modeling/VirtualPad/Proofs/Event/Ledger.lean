import Mathlib.Data.List.DropRight
import Mathlib.Logic.Function.Basic
import VirtualPad.Proofs.Event.Call
import VirtualPad.Proofs.Since

/-!
# Event buffers that number their events together

Any number of event buffers share one counter. A ledger of all calls knows only what the callers
asked for: the capacity of each buffer, in order the events appended while it was not zero, and how
many of the latest ones are still due, given the places there are. The buffers stay in step with the
ledger (`InStep.call`), so each holds exactly the events that are due, in the order of the shared
numbers, and its flag tells whether the ledger had to discard some of its events for lack of room
since the buffer last was told to forget that (`run_buffers`).
-/

namespace VirtualPad

variable {ι : Type}

/-- Whether a call appends an event. -/
def BufferCall.isAppend : BufferCall → Bool
  | .append .. => true
  | .pop _ => false
  | .setCapacity _ => false

/-- Event buffers with a shared counter. -/
structure EventBuffers (ι : Type) where
  buffer : ι → EventBuffer
  /-- The number that the next event gets. -/
  next : UInt32

/-- What was asked of several buffers. -/
structure Ledger (ι : Type) where
  /-- The capacity that was last asked for. -/
  asked : ι → Nat
  /-- The events in the order in which they were appended, each with its buffer. -/
  log : List (ι × Event)
  /-- How many of its latest events a buffer has to keep. -/
  due : ι → Nat

/-- How many events find room when a capacity was asked for: one place stays free. -/
def places (asked : Nat) : Nat := min asked capacityMax - 1

section

variable [DecidableEq ι]

namespace EventBuffers

def new : EventBuffers ι := ⟨fun _ => .empty, 0⟩

def call (s : EventBuffers ι) (i : ι) (x : BufferCall) : EventBuffers ι :=
  let r := (s.buffer i).call s.next x
  ⟨Function.update s.buffer i r.1, r.2⟩

def run (calls : List (ι × BufferCall)) : EventBuffers ι :=
  calls.foldl (fun s x => s.call x.1 x.2) new

end EventBuffers

namespace Ledger

/-- Note a call. Events appended to a buffer of capacity zero do not count. -/
def note (l : Ledger ι) (i : ι) : BufferCall → Ledger ι
  | .append data timestamp =>
    if l.asked i = 0 then l
    else
      { l with
        log := l.log ++ [(i, ⟨data, timestamp, UInt32.ofNat l.log.length⟩)]
        due := Function.update l.due i (min (l.due i + 1) (places (l.asked i))) }
  | .pop n => { l with due := Function.update l.due i (l.due i - n) }
  | .setCapacity capacity =>
    { l with
      asked := Function.update l.asked i capacity
      due := Function.update l.due i (min (l.due i) (places capacity)) }

/-- The ledger of some calls on new buffers. -/
def of (calls : List (ι × BufferCall)) : Ledger ι :=
  calls.foldl (fun l x => l.note x.1 x.2) ⟨fun _ => 0, [], fun _ => 0⟩

/-- The events appended to one buffer. -/
def history (l : Ledger ι) (i : ι) : List Event := (l.log.filter (·.1 = i)).map Prod.snd

/-- There is no room for what a call is about: an event comes to places that are all taken, or fewer
places are asked for than are taken. -/
def Discards (l : Ledger ι) (i : ι) : BufferCall → Prop
  | .append .. => l.asked i ≠ 0 ∧ places (l.asked i) ≤ l.due i
  | .pop _ => False
  | .setCapacity capacity => capacity ≠ 0 ∧ places capacity < l.due i

/-- Some call had to discard events of a buffer, and no call since then made the buffer forget it. -/
def LostSince (i : ι) : List (ι × BufferCall) → Prop :=
  Since (fun before x => x.1 = i ∧ (of before).Discards i x.2) fun _ x => x.1 = i ∧ x.2.forgets

end Ledger

/-! ## The ledger -/

namespace Ledger

theorem due_append {l : Ledger ι} {i : ι} (h : l.asked i ≠ 0) (data : EventData)
    (timestamp : UInt32) :
    (l.note i (.append data timestamp)).due i = min (l.due i + 1) (places (l.asked i)) := by
  rw [note, if_neg h]
  exact Function.update_self ..

theorem due_pop (l : Ledger ι) (i : ι) (n : Nat) : (l.note i (.pop n)).due i = l.due i - n :=
  Function.update_self ..

theorem due_setCapacity (l : Ledger ι) (i : ι) (capacity : Nat) :
    (l.note i (.setCapacity capacity)).due i = min (l.due i) (places capacity) :=
  Function.update_self ..

theorem note_of_ne (l : Ledger ι) {i j : ι} (h : j ≠ i) (x : BufferCall) :
    (l.note i x).asked j = l.asked j ∧ (l.note i x).due j = l.due j := by
  cases x with
  | append data timestamp =>
    rw [note]
    split
    · exact ⟨rfl, rfl⟩
    · exact ⟨rfl, Function.update_of_ne h ..⟩
  | pop n => exact ⟨rfl, Function.update_of_ne h ..⟩
  | setCapacity capacity => exact ⟨Function.update_of_ne h .., Function.update_of_ne h ..⟩

theorem of_concat (calls : List (ι × BufferCall)) (x : ι × BufferCall) :
    of (calls ++ [x]) = (of calls).note x.1 x.2 := by
  rw [of, List.foldl_append]
  rfl

theorem length_log_le (calls : List (ι × BufferCall)) :
    (of calls).log.length ≤ calls.countP (·.2.isAppend) := by
  induction calls using List.reverseRecOn with
  | nil => exact Nat.le_refl 0
  | append_singleton calls x ih =>
    obtain ⟨i, x⟩ := x
    rw [of_concat, List.countP_append]
    cases x with
    | append data timestamp =>
      rw [note]
      split
      · exact Nat.le_add_right_of_le ih
      · rw [List.length_append]
        exact Nat.add_le_add_right ih 1
    | pop n => exact Nat.le_add_right_of_le ih
    | setCapacity capacity => exact Nat.le_add_right_of_le ih

theorem sequences_log (calls : List (ι × BufferCall)) :
    (of calls).log.map (·.2.sequence) = (List.range (of calls).log.length).map UInt32.ofNat := by
  induction calls using List.reverseRecOn with
  | nil => rfl
  | append_singleton calls x ih =>
    obtain ⟨i, x⟩ := x
    rw [of_concat]
    cases x with
    | append data timestamp =>
      rw [note]
      split
      · exact ih
      · simp [ih, List.range_succ]
    | pop n => exact ih
    | setCapacity capacity => exact ih

theorem ofNat_lt_ofNat {m n : Nat} (hn : n < UInt32.size) (h : m < n) :
    UInt32.ofNat m < UInt32.ofNat n := by
  rw [UInt32.lt_iff_toNat_lt, UInt32.toNat_ofNat_of_lt' hn,
    UInt32.toNat_ofNat_of_lt' (Nat.lt_trans h hn)]
  exact h

/-- As long as the counter does not come around, events are numbered in the order in which they were
appended. -/
theorem pairwise_log {calls : List (ι × BufferCall)}
    (h : calls.countP (·.2.isAppend) < UInt32.size) :
    (of calls).log.Pairwise (fun x y => x.2.sequence < y.2.sequence) := by
  have hl := length_log_le calls
  have hp : ((of calls).log.map (·.2.sequence)).Pairwise (· < ·) := by
    rw [sequences_log, List.pairwise_map]
    refine List.pairwise_lt_range.imp_of_mem ?_
    intro m n _ hn hmn
    have := List.mem_range.1 hn
    exact ofNat_lt_ofNat (by omega) hmn
  exact List.pairwise_map.1 hp

theorem pairwise_history {calls : List (ι × BufferCall)}
    (h : calls.countP (·.2.isAppend) < UInt32.size) (i : ι) :
    ((of calls).history i).Pairwise (fun e f => e.sequence < f.sequence) := by
  rw [history, List.pairwise_map]
  exact (pairwise_log h).sublist List.filter_sublist

end Ledger

/-! ## Buffers and ledger in step -/

/-- The buffers hold what the ledger says. -/
structure InStep (s : EventBuffers ι) (l : Ledger ι) : Prop where
  kept : ∀ i, (s.buffer i).Kept (l.history i)
  capacity : ∀ i, (s.buffer i).capacity = min (l.asked i) capacityMax
  count : ∀ i, (s.buffer i).count = l.due i
  next : s.next = UInt32.ofNat l.log.length

theorem InStep.isEnabled {s : EventBuffers ι} {l : Ledger ι} (h : InStep s l) (i : ι) :
    (s.buffer i).isEnabled = true ↔ l.asked i ≠ 0 := by
  rw [EventBuffer.isEnabled_iff, h.capacity, capacityMax]
  omega

theorem InStep.room {s : EventBuffers ι} {l : Ledger ι} (h : InStep s l) (i : ι) :
    (s.buffer i).room = places (l.asked i) := by
  rw [EventBuffer.room, h.capacity, places]

theorem InStep.log_note {s : EventBuffers ι} {l : Ledger ι} (h : InStep s l) (i : ι)
    (x : BufferCall) :
    (l.note i x).log = l.log ++ ((s.buffer i).added s.next x).map (Prod.mk i) := by
  cases x with
  | append data timestamp =>
    rw [EventBuffer.added, Ledger.note]
    by_cases h0 : l.asked i = 0
    · have hd : ¬ (s.buffer i).isEnabled = true := fun he => (h.isEnabled i).1 he h0
      rw [if_pos h0, if_neg hd, List.map_nil, List.append_nil]
    · rw [if_neg h0, if_pos ((h.isEnabled i).2 h0), h.next, List.map_singleton]
  | pop n => exact (List.append_nil _).symm
  | setCapacity capacity => exact (List.append_nil _).symm

theorem InStep.history_note {s : EventBuffers ι} {l : Ledger ι} (h : InStep s l) (i j : ι)
    (x : BufferCall) :
    (l.note i x).history j =
      l.history j ++ if j = i then (s.buffer i).added s.next x else [] := by
  rw [Ledger.history, h.log_note, List.filter_append, List.map_append]
  by_cases hij : j = i
  · subst hij
    simp [Ledger.history, List.filter_map, Function.comp_def]
  · simp [Ledger.history, List.filter_map, Function.comp_def, hij, Ne.symm hij]

theorem InStep.next_call {s : EventBuffers ι} {l : Ledger ι} (h : InStep s l) (i : ι)
    (x : BufferCall) : (s.call i x).next = UInt32.ofNat (l.note i x).log.length := by
  rw [EventBuffers.call]
  dsimp only
  rw [EventBuffer.call_snd, h.log_note, List.length_append, List.length_map, UInt32.ofNat_add,
    ← h.next]

theorem InStep.capacity_call {s : EventBuffers ι} {l : Ledger ι} (h : InStep s l) (i : ι)
    (x : BufferCall) :
    ((s.buffer i).call s.next x).1.capacity = min ((l.note i x).asked i) capacityMax := by
  cases x with
  | append data timestamp =>
    rw [EventBuffer.call, EventBuffer.capacity_append, h.capacity, Ledger.note]
    split <;> rfl
  | pop n => exact h.capacity i
  | setCapacity capacity =>
    rw [EventBuffer.call, EventBuffer.capacity_setCapacity, Ledger.note]
    simp

theorem InStep.count_call {s : EventBuffers ι} {l : Ledger ι} (h : InStep s l) (i : ι)
    (x : BufferCall) : ((s.buffer i).call s.next x).1.count = (l.note i x).due i := by
  have hle := (h.kept i).count_le
  cases x with
  | append data timestamp =>
    rw [EventBuffer.call]
    by_cases h0 : l.asked i = 0
    · have hd : (s.buffer i).isEnabled = false := by
        rw [← Bool.not_eq_true]
        exact fun he => (h.isEnabled i).1 he h0
      rw [Ledger.note, if_pos h0, EventBuffer.append_of_disabled hd, h.count]
    · have hadd := EventBuffer.toList_append ((h.isEnabled i).2 h0) hle s.next data timestamp
      rw [Ledger.due_append h0, ← EventBuffer.length_toList, hadd, ← h.count, ← h.room]
      simp
      omega
  | pop n =>
    rw [EventBuffer.call, Ledger.due_pop, ← h.count, ← EventBuffer.length_toList,
      EventBuffer.toList_pop]
    simp
  | setCapacity capacity =>
    rw [EventBuffer.call, Ledger.due_setCapacity, ← h.count, ← EventBuffer.length_toList,
      EventBuffer.toList_setCapacity, places]
    simp
    omega

/-- A call loses events exactly when the ledger has to discard some. -/
theorem InStep.lost_pos {s : EventBuffers ι} {l : Ledger ι} (h : InStep s l) (i : ι)
    (x : BufferCall) : 0 < (s.buffer i).lost s.next x ↔ l.Discards i x := by
  cases x with
  | append data timestamp =>
    rw [Ledger.Discards]
    by_cases h0 : l.asked i = 0
    · have hd : ¬ (s.buffer i).isEnabled = true := fun he => (h.isEnabled i).1 he h0
      simp [EventBuffer.lost, EventBuffer.call, EventBuffer.added, hd, h0,
        EventBuffer.append_of_disabled (Bool.not_eq_true _ ▸ hd)]
    · rw [EventBuffer.lost_append ((h.isEnabled i).2 h0), h.count, h.room]
      split
      · omega
      · omega
  | pop n => simp [EventBuffer.lost, BufferCall.forgets, Ledger.Discards]
  | setCapacity capacity =>
    rw [Ledger.Discards]
    by_cases h0 : capacity = 0
    · simp [EventBuffer.lost, BufferCall.forgets, h0]
    · rw [EventBuffer.lost_setCapacity _ _ h0, h.count, places]
      omega

theorem InStep.call {s : EventBuffers ι} {l : Ledger ι} (h : InStep s l) (i : ι) (x : BufferCall) :
    InStep (s.call i x) (l.note i x) := by
  refine ⟨?_, ?_, ?_, h.next_call i x⟩
  · intro j
    rw [h.history_note]
    by_cases hij : j = i
    · subst hij
      simpa [EventBuffers.call] using (h.kept j).call s.next x
    · simpa [EventBuffers.call, hij] using h.kept j
  · intro j
    by_cases hij : j = i
    · subst hij
      simpa [EventBuffers.call] using h.capacity_call j x
    · simpa [EventBuffers.call, hij, (l.note_of_ne hij x).1] using h.capacity j
  · intro j
    by_cases hij : j = i
    · subst hij
      simpa [EventBuffers.call] using h.count_call j x
    · simpa [EventBuffers.call, hij, (l.note_of_ne hij x).2] using h.count j

namespace EventBuffers

theorem run_concat (calls : List (ι × BufferCall)) (x : ι × BufferCall) :
    run (calls ++ [x]) = (run calls).call x.1 x.2 := by
  rw [run, List.foldl_append]
  rfl

theorem inStep_run (calls : List (ι × BufferCall)) : InStep (run calls) (Ledger.of calls) := by
  induction calls using List.reverseRecOn with
  | nil => exact ⟨fun _ => .empty, fun _ => rfl, fun _ => rfl, rfl⟩
  | append_singleton calls x ih =>
    rw [run_concat, Ledger.of_concat]
    exact ih.call x.1 x.2

/-! ## Lost events -/

theorem overflowed_run (calls : List (ι × BufferCall)) (i : ι) :
    ((run calls).buffer i).overflowed = true ↔ Ledger.LostSince i calls := by
  induction calls using List.reverseRecOn with
  | nil => exact iff_of_false Bool.false_ne_true not_since_nil
  | append_singleton calls x ih =>
    obtain ⟨j, x⟩ := x
    rw [run_concat, Ledger.LostSince, since_concat, ← Ledger.LostSince, ← ih,
      ← (inStep_run calls).lost_pos, call]
    by_cases hij : j = i
    · subst hij
      have hx : 0 < ((run calls).buffer j).lost (run calls).next x → x.forgets = false :=
        EventBuffer.forgets_of_lost
      simp only [Function.update_self, EventBuffer.overflowed_call, Bool.and_eq_true,
        Bool.not_eq_true', Bool.not_eq_true, Bool.or_eq_true, decide_eq_true_eq, true_and]
      tauto
    · simp [hij, Ne.symm hij]

/-- What several buffers hold after any calls on them, while the counter does not come around: all
the events that are due. -/
theorem run_buffers (calls : List (ι × BufferCall))
    (h : calls.countP (·.2.isAppend) < UInt32.size) :
    (∀ i,
      ((run calls).buffer i).capacity = min ((Ledger.of calls).asked i) 65536 ∧
      ((run calls).buffer i).count ≤ max ((run calls).buffer i).capacity 1 - 1 ∧
      ((run calls).buffer i).count = (Ledger.of calls).due i ∧
      ((run calls).buffer i).toList =
        ((Ledger.of calls).history i).rtake ((Ledger.of calls).due i) ∧
      ((run calls).buffer i).toList.Pairwise (fun e f => e.sequence < f.sequence) ∧
      (((run calls).buffer i).overflowed = true ↔ Ledger.LostSince i calls)) ∧
    (Ledger.of calls).log.Pairwise (fun x y => x.2.sequence < y.2.sequence) := by
  refine ⟨fun i => ?_, Ledger.pairwise_log h⟩
  have hs := inStep_run calls
  have hk := hs.kept i
  have hc := hk.count_le
  refine ⟨hs.capacity i, ?_, hs.count i, ?_, ?_, overflowed_run calls i⟩
  · rw [EventBuffer.room] at hc
    omega
  · rw [← hs.count]
    exact hk.toList_eq
  · exact (Ledger.pairwise_history h i).sublist hk.suffix.sublist

/-- One buffer keeps a single event and loses an older one, while another only takes part in the
numbering. -/
theorem run_buffers_one_place :
    let calls : List (Bool × BufferCall) :=
      [(true, .append (.axis .x 9) 1), (true, .setCapacity 2), (false, .setCapacity 1),
        (true, .append (.axis .x 9) 2), (false, .append (.axis .x 9) 3),
        (true, .append (.axis .y 7) 4)]
    calls.countP (·.2.isAppend) < UInt32.size ∧
      ((run calls).buffer true).toList = [⟨.axis .y 7, 4, 2⟩] ∧ Ledger.LostSince true calls ∧
      ((run calls).buffer false).toList = [] ∧ Ledger.LostSince false calls := by
  intro calls
  have hn : calls.countP (·.2.isAppend) < UInt32.size := by decide
  obtain ⟨-, -, -, ht, -, ho⟩ := (run_buffers calls hn).1 true
  obtain ⟨-, -, -, hf, -, hp⟩ := (run_buffers calls hn).1 false
  exact ⟨hn, ht.trans (by decide), ho.1 (by decide), hf.trans (by decide), hp.1 (by decide)⟩

end EventBuffers

end

end VirtualPad
