import Mathlib.Data.List.Infix
import VirtualPad.Proofs.Controller.Run

/-!
# What a client reads of the event buffer

A client that follows a controller by its events takes them out of the buffer in batches. As long as
nobody else pops events or disables the buffer, each event goes one of three ways: it is read, it is
still stored, or it was discarded for lack of room. `sublist_perform` and `length_perform` say so of
one operation, `sublist_run` and `length_run` of a whole run.

The overflow flag is how the client learns that events are missing. It stands for the events
discarded since it was last handed over (`overflowed_run`), so a client that never sees it has seen
everything (`run_reads`).
-/

namespace VirtualPad

variable {V : Type}

/-- A buffer that takes events, holds none, and remembers no loss. -/
structure EventBuffer.Fresh (b : EventBuffer) : Prop where
  isEnabled : b.isEnabled = true
  toList_eq : b.toList = []
  overflowed_eq : b.overflowed = false

/-- What one read that consumes hands over. -/
structure Batch where
  events : List Event
  overflowed : Bool

namespace Operation

/-- Whether an operation takes the events that it reads out of the buffer. -/
def consumes : Operation V → Bool
  | .read _ peek => !peek
  | _ => false

/-- Events are popped only by reading them, and the buffer is not disabled. -/
def keepsAccount : Operation V → Bool
  | .pop _ => false
  | .setCapacity capacity => capacity ≠ 0
  | _ => true

theorem consumes_iff {op : Operation V} : op.consumes = true ↔ ∃ limit, op = .read limit false := by
  cases op with
  | read limit peek => cases peek <;> simp [consumes]
  | _ => simp [consumes]

end Operation

namespace Controller

/-- What an operation hands over, if it is a read that consumes. -/
def batch (c : Controller) : Operation V → List Batch
  | .read limit false => [⟨(c.readEvents limit false).1, (c.readEvents limit false).2.1⟩]
  | _ => []

/-- The events that an operation hands over. -/
def handed (c : Controller) (op : Operation V) : List Event := (c.batch op).flatMap Batch.events

/-- The events that an operation appends to the buffer. -/
def gained (c : Controller) (op : Operation V) : List Event :=
  c.events.addedAll op.next (c.calls op)

/-- How many events an operation discards for lack of room. -/
def dropped (c : Controller) (op : Operation V) : Nat := c.events.lostAll op.next (c.calls op)

/-- What the reads of a run hand over, in order. -/
def batches (c : Controller) : List (Operation V) → List Batch
  | [] => []
  | op :: ops => c.batch op ++ (c.perform op).batches ops

/-- The events that a run appends to the buffer, in order. -/
def appended (c : Controller) : List (Operation V) → List Event
  | [] => []
  | op :: ops => c.gained op ++ (c.perform op).appended ops

/-- The changes that the refreshes of a run announce: those of elements that are not muted. -/
def announced (c : Controller) : List (Operation V) → List EventData
  | [] => []
  | op :: ops => (rawOf? c.mapper c.player op).elim [] c.reported ++ (c.perform op).announced ops

/-- How many events a run discards for lack of room. -/
def discarded (c : Controller) : List (Operation V) → Nat
  | [] => 0
  | op :: ops => c.dropped op + (c.perform op).discarded ops

/-- Nothing has happened yet, or a read that consumes has just happened. -/
def EndsInRead (ops : List (Operation V)) : Prop :=
  ops = [] ∨ ∃ before limit, ops = before ++ [.read limit false]

/-! ## The buffer calls of an operation -/

theorem mem_calls {c : Controller} {op : Operation V} {x : BufferCall} (hx : x ∈ c.calls op) :
    (∃ data now, x = .append data now) ∨
      (∃ capacity, op = .setCapacity capacity ∧ x = .setCapacity capacity) ∨
      ∃ n, x = .pop n ∧ (op = .pop n ∨ op.consumes = true) := by
  cases op with
  | refresh next now pad =>
    obtain ⟨d, -, rfl⟩ := List.mem_map.1 hx
    exact .inl ⟨d, now, rfl⟩
  | refreshVirtual next now raw =>
    obtain ⟨d, -, rfl⟩ := List.mem_map.1 hx
    exact .inl ⟨d, now, rfl⟩
  | setCapacity capacity => exact .inr (.inl ⟨capacity, rfl, List.mem_singleton.1 hx⟩)
  | pop n => exact .inr (.inr ⟨n, List.mem_singleton.1 hx, .inl rfl⟩)
  | read limit peek =>
    cases peek with
    | true => cases hx
    | false => exact .inr (.inr ⟨_, List.mem_singleton.1 hx, .inr rfl⟩)
  | _ => cases hx

theorem calls_ne_disable {c : Controller} {op : Operation V} (h : op.keepsAccount = true) :
    ∀ x ∈ c.calls op, x ≠ .setCapacity 0 := by
  rintro x hx rfl
  rcases mem_calls hx with ⟨data, now, heq⟩ | ⟨capacity, rfl, heq⟩ | ⟨n, heq, -⟩
  · cases heq
  · cases heq
    cases h
  · cases heq

theorem isEnabled_perform {c : Controller} {op : Operation V} (he : c.events.isEnabled = true)
    (h : op.keepsAccount = true) : (c.perform op).events.isEnabled = true := by
  rw [events_perform]
  exact EventBuffer.isEnabled_callAll he op.next (calls_ne_disable h)

theorem calls_forget {c : Controller} {op : Operation V} (h : op.keepsAccount = true)
    (hr : op.consumes = false) : ∀ x ∈ c.calls op, x.forgets = false := by
  intro x hx
  rcases mem_calls hx with ⟨data, now, rfl⟩ | ⟨capacity, rfl, rfl⟩ | ⟨n, rfl, rfl | hread⟩
  · rfl
  · exact decide_eq_false (of_decide_eq_true h)
  · cases h
  · rw [hr] at hread
    cases hread

theorem batch_of_not_consumes {c : Controller} {op : Operation V} (hr : op.consumes = false) :
    c.batch op = [] := by
  cases op with
  | read limit peek =>
    cases peek with
    | true => rfl
    | false => cases hr
  | _ => rfl

theorem data_gained {c : Controller} (he : c.events.isEnabled = true) (op : Operation V) :
    (c.gained op).map Event.data = (rawOf? c.mapper c.player op).elim [] c.reported := by
  rw [gained]
  cases hr : rawOf? c.mapper c.player op with
  | some raw =>
    obtain ⟨now, hcalls⟩ := calls_of_refresh hr
    rw [hcalls]
    exact EventBuffer.data_addedAll he op.next now _
  | none =>
    rw [addedAll_of_not_refresh hr]
    rfl

/-! ## One operation -/

theorem handed_read {c : Controller} {op : Operation V} (hr : op.consumes = true) :
    c.handed op ++ (c.perform op).events.toList = c.events.toList := by
  obtain ⟨limit, rfl⟩ := Operation.consumes_iff.1 hr
  have hprefix : c.events.toList.take limit <+: c.events.toList := List.take_prefix limit _
  have hhanded : c.handed (.read limit false : Operation V) = c.events.toList.take limit :=
    List.append_nil _
  have hrest : (c.perform (.read limit false : Operation V)).events.toList =
      c.events.toList.drop (c.events.toList.take limit).length := EventBuffer.toList_pop _ _
  rw [hhanded, hrest]
  exact (List.prefix_append_drop hprefix).symm

theorem handed_of_not_consumes {c : Controller} {op : Operation V} (hr : op.consumes = false) :
    c.handed op = [] := by
  rw [handed, batch_of_not_consumes hr, List.flatMap_nil]

theorem dropped_read {c : Controller} {op : Operation V} (hr : op.consumes = true) :
    c.dropped op = 0 := by
  obtain ⟨limit, rfl⟩ := Operation.consumes_iff.1 hr
  rfl

theorem sublist_perform (c : Controller) (op : Operation V) :
    (c.handed op ++ (c.perform op).events.toList).Sublist (c.events.toList ++ c.gained op) := by
  cases hr : op.consumes with
  | true =>
    rw [handed_read hr]
    exact List.sublist_append_left _ _
  | false =>
    rw [handed_of_not_consumes hr, events_perform]
    exact c.events.toList_callAll_sublist op.next (c.calls op)

/-- An event that is stored or appended is handed over, stored or discarded. -/
theorem length_perform {c : Controller} {op : Operation V} (h : op.keepsAccount = true) :
    (c.handed op ++ (c.perform op).events.toList).length + c.dropped op =
      (c.events.toList ++ c.gained op).length := by
  cases hr : op.consumes with
  | true =>
    have hgained : c.gained op = [] := by
      obtain ⟨limit, rfl⟩ := Operation.consumes_iff.1 hr
      rfl
    rw [handed_read hr, dropped_read hr, hgained, List.append_nil, Nat.add_zero]
  | false =>
    have hcount := c.events.count_callAll op.next (calls_forget (c := c) h hr)
    rw [handed_of_not_consumes hr, events_perform, List.nil_append, List.length_append,
      EventBuffer.length_toList, EventBuffer.length_toList]
    exact hcount

theorem overflowed_perform {c : Controller} {op : Operation V} (h : op.keepsAccount = true)
    (hr : op.consumes = false) :
    (c.perform op).events.overflowed = true ↔ c.events.overflowed = true ∨ 0 < c.dropped op := by
  rw [events_perform]
  exact c.events.overflowed_callAll op.next (calls_forget h hr)

/-! ## Runs -/

/-- The events that the reads of a run hand over. -/
def taken (c : Controller) (ops : List (Operation V)) : List Event :=
  (c.batches ops).flatMap Batch.events

theorem taken_cons (c : Controller) (op : Operation V) (ops : List (Operation V)) :
    c.taken (op :: ops) = c.handed op ++ (c.perform op).taken ops := List.flatMap_append

theorem run_append (c : Controller) (ops more : List (Operation V)) :
    c.run (ops ++ more) = (c.run ops).run more := List.foldl_append

theorem data_appended {c : Controller} (he : c.events.isEnabled = true) {ops : List (Operation V)}
    (h : ∀ op ∈ ops, op.keepsAccount = true) :
    (c.appended ops).map Event.data = c.announced ops := by
  induction ops generalizing c with
  | nil => rfl
  | cons op ops ih =>
    have hop : (c.perform op).events.isEnabled = true :=
      isEnabled_perform he (h op List.mem_cons_self)
    have hops := ih hop fun op' hop' => h op' (List.mem_cons_of_mem op hop')
    rw [appended, announced, List.map_append, data_gained he, hops]

theorem sublist_run (c : Controller) (ops : List (Operation V)) :
    (c.taken ops ++ (c.run ops).events.toList).Sublist (c.events.toList ++ c.appended ops) := by
  induction ops generalizing c with
  | nil => simp [taken, batches, appended, run]
  | cons op ops ih =>
    have hop := (c.sublist_perform op).append_right ((c.perform op).appended ops)
    have hops := (ih (c.perform op)).append_left (c.handed op)
    rw [← List.append_assoc, ← List.append_assoc] at hops
    rw [taken_cons, appended, ← List.append_assoc c.events.toList]
    exact hops.trans hop

theorem length_run {c : Controller} {ops : List (Operation V)}
    (h : ∀ op ∈ ops, op.keepsAccount = true) :
    (c.taken ops ++ (c.run ops).events.toList).length + c.discarded ops =
      (c.events.toList ++ c.appended ops).length := by
  induction ops generalizing c with
  | nil => simp [taken, batches, appended, discarded, run]
  | cons op ops ih =>
    have hop := length_perform (c := c) (h op List.mem_cons_self)
    have hops := ih (c := c.perform op) fun op' hop' => h op' (List.mem_cons_of_mem op hop')
    have hrun : c.run (op :: ops) = (c.perform op).run ops := rfl
    rw [taken_cons, appended, discarded, hrun]
    simp only [List.length_append] at hop hops ⊢
    omega

theorem overflowed_run {c : Controller} {ops : List (Operation V)}
    (h : ∀ op ∈ ops, op.keepsAccount = true) (hr : ∀ op ∈ ops, op.consumes = false) :
    (c.run ops).events.overflowed = true ↔ c.events.overflowed = true ∨ 0 < c.discarded ops := by
  induction ops generalizing c with
  | nil => simp [run, discarded]
  | cons op ops ih =>
    have hop := overflowed_perform (c := c) (h op List.mem_cons_self) (hr op List.mem_cons_self)
    have hops := ih (c := c.perform op) (fun op' hop' => h op' (List.mem_cons_of_mem op hop'))
      fun op' hop' => hr op' (List.mem_cons_of_mem op hop')
    have hrun : c.run (op :: ops) = (c.perform op).run ops := rfl
    rw [hrun, hops, hop, discarded, Nat.add_pos_iff_pos_or_pos, or_assoc]

theorem overflowed_of_endsInRead {c : Controller} (hc : c.events.overflowed = false)
    {ops : List (Operation V)} (h : EndsInRead ops) : (c.run ops).events.overflowed = false := by
  rcases h with rfl | ⟨before, limit, rfl⟩
  · exact hc
  · rw [run_concat]
    rfl

/-- A loss shows in a batch or is still remembered. -/
theorem discarded_eq_zero {c : Controller} {ops : List (Operation V)}
    (h : ∀ op ∈ ops, op.keepsAccount = true) (hb : ∀ b ∈ c.batches ops, b.overflowed = false)
    (hend : (c.run ops).events.overflowed = false) :
    c.discarded ops = 0 ∧ c.events.overflowed = false := by
  induction ops generalizing c with
  | nil => exact ⟨rfl, hend⟩
  | cons op ops ih =>
    obtain ⟨hops, hflag⟩ := ih (c := c.perform op)
      (fun op' hop' => h op' (List.mem_cons_of_mem op hop'))
      (fun b hb' => hb b (List.mem_append_right _ hb')) hend
    rw [discarded, hops, Nat.add_zero]
    cases hr : op.consumes with
    | true =>
      refine ⟨dropped_read hr, ?_⟩
      obtain ⟨limit, rfl⟩ := Operation.consumes_iff.1 hr
      exact hb _ (List.mem_append_left _ (List.mem_singleton.2 rfl))
    | false =>
      have hop := overflowed_perform (c := c) (h op List.mem_cons_self) hr
      rw [hflag] at hop
      have hnone : ¬ (c.events.overflowed = true ∨ 0 < c.dropped op) := fun hor =>
        Bool.false_ne_true (hop.2 hor)
      rw [not_or, Bool.not_eq_true, Nat.pos_iff_ne_zero, not_not] at hnone
      exact ⟨hnone.2, hnone.1⟩

/-- A client of a buffer that starts out empty, during a run in which events are popped only by
reading them and the buffer stays enabled. What it reads, followed by what is still stored, is a
part in order of the events appended, and what is missing was discarded. A read that consumes tells
of a loss exactly if an event was discarded since the read before it, and one that only peeks
changes nothing. So if no loss is told of and none is remembered, nothing is missing. -/
theorem run_reads {c : Controller} (hc : c.events.Fresh) {ops : List (Operation V)}
    (h : ∀ op ∈ ops, op.keepsAccount = true) :
    let seen := c.taken ops ++ (c.run ops).events.toList
    (c.appended ops).map Event.data = c.announced ops ∧
    seen.Sublist (c.appended ops) ∧
    ((c.appended ops).Nodup → seen.Nodup) ∧
    seen.length + c.discarded ops = (c.appended ops).length ∧
    (∀ earlier later limit rest, ops = earlier ++ later ++ .read limit false :: rest →
      EndsInRead earlier → (∀ op ∈ later, op.consumes = false) →
      (((c.run (earlier ++ later)).readEvents limit false).2.1 = true ↔
        0 < (c.run earlier).discarded later)) ∧
    (∀ limit, (c.run ops).perform (.read limit true : Operation V) = c.run ops) ∧
    ((∀ b ∈ c.batches ops, b.overflowed = false) → (c.run ops).events.overflowed = false →
      seen = c.appended ops) := by
  intro seen
  have hsublist := c.sublist_run ops
  have hlength := length_run (c := c) h
  rw [hc.toList_eq, List.nil_append] at hsublist hlength
  refine ⟨data_appended hc.isEnabled h, hsublist, hsublist.nodup, hlength, ?_, fun _ => rfl, ?_⟩
  · rintro earlier later limit rest rfl hearlier hlater
    have hstart := overflowed_of_endsInRead hc.overflowed_eq hearlier
    have hkeeps : ∀ op ∈ later, op.keepsAccount = true := fun op hop =>
      h op (List.mem_append_left _ (List.mem_append_right _ hop))
    have hflag := overflowed_run (c := c.run earlier) hkeeps hlater
    rw [hstart, ← run_append] at hflag
    exact hflag.trans (or_iff_right Bool.false_ne_true)
  · intro hbatches hend
    have hzero := (discarded_eq_zero h hbatches hend).1
    rw [hzero, Nat.add_zero] at hlength
    exact hsublist.eq_of_length hlength

/-- A buffer with one place, read before and after it loses an event. -/
theorem run_reads_one_place :
    let c := (Controller.create 1 0 ⟨"", .empty, .disabled⟩ false).setCapacity 2
    let moved : VirtualState := VirtualState.neutral.addAxis .x 30000
    let pressed : VirtualState := moved.mergeButton ⟨2, by decide⟩ true
    let earlier : List (Operation Unit) := [.refreshVirtual 7 10 moved, .read 3 false]
    let later : List (Operation Unit) :=
      [.refreshVirtual 8 20 pressed, .setDeadzone .every 0, .read 1 true,
        .refreshVirtual 9 30 .neutral]
    let ops := earlier ++ later ++ [.read 1 false]
    c.events.Fresh ∧ (∀ op ∈ ops, op.keepsAccount = true) ∧ EndsInRead earlier ∧
      c.taken earlier = c.appended earlier ∧
      ((c.run (earlier ++ later)).readEvents 1 false).2.1 = true ∧
      (c.taken ops ++ (c.run ops).events.toList).length + 2 = (c.appended ops).length := by
  intro c moved pressed earlier later ops
  have hc : c.events.Fresh := ⟨by decide, by decide, by decide⟩
  have hops : ∀ op ∈ ops, op.keepsAccount = true := by decide
  have hearlier : ∀ op ∈ earlier, op.keepsAccount = true := by decide
  have hread : EndsInRead earlier := .inr ⟨[.refreshVirtual 7 10 moved], 3, rfl⟩
  obtain ⟨-, -, -, hlength, htold, -⟩ := run_reads hc hops
  obtain ⟨-, -, -, -, -, -, hall⟩ := run_reads hc hearlier
  have hall := hall (by decide +kernel) (by decide +kernel)
  have hempty : (c.run earlier).events.toList = [] := by decide +kernel
  have hdiscarded : c.discarded ops = 2 := by decide +kernel
  have hpositive : 0 < (c.run earlier).discarded later := by decide +kernel
  rw [hempty, List.append_nil] at hall
  rw [hdiscarded] at hlength
  have hloss := (htold earlier later 1 [] rfl hread (by decide)).2 hpositive
  exact ⟨hc, hops, hread, hall, hloss, hlength⟩

end Controller

end VirtualPad
