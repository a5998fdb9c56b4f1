import Mathlib.Data.List.Induction
import VirtualPad.Force.Device
import VirtualPad.Proofs.Since

/-!
# Playback

A device keeps two maps, and nothing but its operations holds them together: what is stored, and
what is playing. A run of calls in any order keeps them `Consistent`. What each call does to an
effect is said by `get?_effects_perform` and `get?_playing_perform`, one lookup at a time, and
everything else about runs is read off these two. So is the time from which a playback counts: the
one that was given with the start, for as long as no call has ended this playback
(`playing_run_iff`).
-/

namespace VirtualPad

variable {V W : Type} [Scalar V] [Scalar W] [Precision V W]

inductive DeviceCall (V : Type) where
  | store (e : Effect V)
  | remove (id : UInt32)
  | start (id now : UInt32)
  | stop (id : UInt32)
  | stopAll
  | tick (now : UInt32)

/-- The effect that a call is about, if it is about a single one. -/
def DeviceCall.id? : DeviceCall V → Option UInt32
  | .store e => some e.id
  | .remove id => some id
  | .start id _ => some id
  | .stop id => some id
  | .stopAll => none
  | .tick _ => none

/-- Milliseconds from a start to a moment, on a clock that goes round. -/
def elapsed (start now : UInt32) : Nat :=
  (now.toNat + UInt32.size - start.toNat) % UInt32.size

theorem toNat_sub_eq_elapsed (start now : UInt32) : (now - start).toNat = elapsed start now := by
  have hstart : start.toNat < UInt32.size := start.toNat_lt_size
  have hsum : UInt32.size - start.toNat + now.toNat = now.toNat + UInt32.size - start.toNat := by
    omega
  rw [elapsed, ← hsum]
  exact UInt32.toNat_sub ..

/-- The effect can be played. -/
def Effect.Ready (e : Effect V) : Prop := e.checkReady = .ok ()

namespace Device

def perform (d : Device V) : DeviceCall V → Device V
  | .store e => d.store e
  | .remove id => (d.remove id).2
  | .start id now => (d.start id now).1
  | .stop id => (d.stop id).2
  | .stopAll => d.stopAll
  | .tick now => (d.tick now).2

def performAll (d : Device V) (calls : List (DeviceCall V)) : Device V := calls.foldl perform d

def run (calls : List (DeviceCall V)) : Device V := performAll .empty calls

/-- How long the effect with a given id goes on. Without a duration it is over at once. -/
def durationOf (d : Device V) (id : UInt32) : UInt32 :=
  ((d.effects.get? id).bind Effect.duration).getD 0

/-! ## One call -/

omit [Scalar V] in
theorem start_cases (d : Device V) (id now : UInt32) :
    (∃ e, d.effects.get? id = some e ∧ e.Ready ∧
        d.start id now = ({ d with playing := d.playing.insert id now }, .ok ())) ∨
      ((∀ e, d.effects.get? id = some e → ¬e.Ready) ∧ ∃ err, d.start id now = (d, .error err)) := by
  unfold start
  cases he : d.effects.get? id with
  | none =>
    refine .inr ⟨?_, .unknownEffect id, rfl⟩
    intro e h
    cases h
  | some e =>
    dsimp only
    cases hready : e.checkReady with
    | error err =>
      refine .inr ⟨?_, err, rfl⟩
      intro e' h
      obtain rfl := Option.some.inj h
      simp [Effect.Ready, hready]
    | ok u => exact .inl ⟨e, rfl, hready, rfl⟩

omit [Scalar V] in
theorem isOk_start_iff (d : Device V) (id now : UInt32) :
    (d.start id now).2.isOk = true ↔ ∃ e, d.effects.get? id = some e ∧ e.Ready := by
  rcases d.start_cases id now with ⟨e, he, hready, hs⟩ | ⟨hready, err, hs⟩
  · rw [hs]
    exact ⟨fun _ => ⟨e, he, hready⟩, fun _ => rfl⟩
  · rw [hs]
    constructor
    · intro h
      cases h
    · rintro ⟨e, he, he'⟩
      exact absurd he' (hready e he)

theorem perform_start (d : Device V) (id now : UInt32) :
    d.perform (.start id now) =
      if (d.start id now).2.isOk then { d with playing := d.playing.insert id now } else d := by
  rcases d.start_cases id now with ⟨e, -, -, hs⟩ | ⟨-, err, hs⟩
  · rw [perform, hs]
    rfl
  · rw [perform, hs]
    rfl

omit [Scalar V] in
theorem isSome_ongoing? (d : Device V) (now id start : UInt32) :
    (d.ongoing? now (id, start)).isSome = decide (elapsed start now < (d.durationOf id).toNat) := by
  rw [← toNat_sub_eq_elapsed, ongoing?, durationOf]
  cases d.effects.get? id with
  | none => simp
  | some e =>
    dsimp only [Option.bind_some]
    by_cases h : e.isFinishedAt (now - start) = true
    · have hover : (e.duration.getD 0).toNat ≤ (now - start).toNat :=
        UInt32.le_iff_toNat_le.mp (of_decide_eq_true h)
      rw [if_pos h]
      symm
      simpa using hover
    · have hon : (now - start).toNat < (e.duration.getD 0).toNat := by
        rw [Effect.isFinishedAt, decide_eq_true_eq, UInt32.le_iff_toNat_le] at h
        omega
      rw [if_neg h]
      symm
      simpa using hon

theorem get?_playing_tick (d : Device V) (now id : UInt32) :
    (d.tick now).2.playing.get? id =
      (d.playing.get? id).filter fun start => elapsed start now < (d.durationOf id).toNat := by
  rw [tick, OrderedMap.get?_filter]
  simp only [isSome_ongoing?]

/-- A tick only drops what adds no force at its moment, so ticking again changes nothing. -/
theorem tick_tick (d : Device V) (now : UInt32) : (d.tick now).2.tick now = d.tick now := by
  have hongoing : (d.tick now).2.ongoing? now = d.ongoing? now := rfl
  have hentries : (d.tick now).2.playing.entries =
      d.playing.entries.filter fun entry => (d.ongoing? now entry).isSome := rfl
  have hforces : (d.tick now).2.playing.entries.filterMap (d.ongoing? now) =
      d.playing.entries.filterMap (d.ongoing? now) := by
    rw [hentries, List.filterMap_filter]
    congr 1
    funext entry
    cases d.ongoing? now entry <;> rfl
  have hplaying : (d.tick now).2.playing.filter (fun entry => (d.ongoing? now entry).isSome) =
      (d.tick now).2.playing := by
    refine OrderedMap.ext_get? fun id => ?_
    simp only [tick, OrderedMap.get?_filter, Option.filter_filter, Bool.and_self]
  rw [tick, hongoing, hforces, hplaying]
  rfl

theorem get?_effects_perform (d : Device V) (x : DeviceCall V) (id : UInt32) :
    (d.perform x).effects.get? id =
      match x with
      | .store e => if e.id = id then some e else d.effects.get? id
      | .remove other => if other = id then none else d.effects.get? id
      | _ => d.effects.get? id := by
  cases x with
  | store e => exact OrderedMap.get?_insert ..
  | remove other => exact OrderedMap.get?_erase ..
  | start other now =>
    rw [perform_start]
    split <;> rfl
  | stop other => rfl
  | stopAll => rfl
  | tick now => rfl

/-- The start times after a call, one effect at a time. -/
theorem get?_playing_perform (d : Device V) (x : DeviceCall V) (id : UInt32) :
    (d.perform x).playing.get? id =
      match x with
      | .store _ => d.playing.get? id
      | .remove other | .stop other => if other = id then none else d.playing.get? id
      | .start other now =>
        if other = id ∧ (d.start other now).2.isOk then some now else d.playing.get? id
      | .stopAll => none
      | .tick now =>
        (d.playing.get? id).filter fun start => elapsed start now < (d.durationOf id).toNat := by
  cases x with
  | store e => rfl
  | remove other => exact OrderedMap.get?_erase ..
  | start other now =>
    rw [perform_start]
    by_cases hok : (d.start other now).2.isOk = true
    · simp only [hok, if_true, and_true]
      exact OrderedMap.get?_insert ..
    · simp only [hok, Bool.false_eq_true, if_false, and_false]
  | stop other => exact OrderedMap.get?_erase ..
  | stopAll => rfl
  | tick now => exact d.get?_playing_tick now id

theorem perform_other (d : Device V) {x : DeviceCall V} {id other : UInt32} (hx : x.id? = some id)
    (hne : id ≠ other) :
    (d.perform x).effects.get? other = d.effects.get? other ∧
      (d.perform x).playing.get? other = d.playing.get? other := by
  rw [get?_effects_perform, get?_playing_perform]
  cases x with
  | store e =>
    obtain rfl := Option.some.inj hx
    exact ⟨if_neg hne, rfl⟩
  | remove k =>
    obtain rfl := Option.some.inj hx
    exact ⟨if_neg hne, if_neg hne⟩
  | start k now =>
    obtain rfl := Option.some.inj hx
    exact ⟨rfl, if_neg fun h => hne h.1⟩
  | stop k =>
    obtain rfl := Option.some.inj hx
    exact ⟨rfl, if_neg hne⟩
  | stopAll => cases hx
  | tick now => cases hx

/-! ## Runs -/

/-- Effects are stored under their own ids, and only stored effects play. -/
structure Consistent (d : Device V) : Prop where
  id_eq {id : UInt32} {e : Effect V} : d.effects.get? id = some e → e.id = id
  stored {id start : UInt32} : d.playing.get? id = some start → (d.effects.get? id).isSome = true

omit [Scalar V] in
theorem consistent_empty : (empty : Device V).Consistent where
  id_eq h := by cases h
  stored h := by cases h

theorem Consistent.perform {d : Device V} (h : d.Consistent) (x : DeviceCall V) :
    (d.perform x).Consistent where
  id_eq {id e} he := by
    rw [get?_effects_perform] at he
    cases x with
    | store e' =>
      dsimp only at he
      split at he
      · rename_i hid
        obtain rfl := Option.some.inj he
        exact hid
      · exact h.id_eq he
    | remove k =>
      dsimp only at he
      split at he
      · cases he
      · exact h.id_eq he
    | start k now => exact h.id_eq he
    | stop k => exact h.id_eq he
    | stopAll => exact h.id_eq he
    | tick now => exact h.id_eq he
  stored {id start} hp := by
    rw [get?_playing_perform] at hp
    rw [get?_effects_perform]
    cases x with
    | store e =>
      dsimp only
      split
      · rfl
      · exact h.stored hp
    | remove k =>
      dsimp only at hp ⊢
      split at hp
      · cases hp
      · rename_i hk
        rw [if_neg hk]
        exact h.stored hp
    | start k now =>
      dsimp only at hp ⊢
      split at hp
      · rename_i hk
        obtain ⟨e, he, -⟩ := (d.isOk_start_iff k now).mp hk.2
        rw [← hk.1, he]
        rfl
      · exact h.stored hp
    | stop k =>
      dsimp only at hp
      split at hp
      · cases hp
      · exact h.stored hp
    | stopAll => cases hp
    | tick now => exact h.stored (Option.filter_eq_some_iff.mp hp).1

theorem Consistent.performAll {d : Device V} (h : d.Consistent) (calls : List (DeviceCall V)) :
    (d.performAll calls).Consistent := by
  induction calls generalizing d with
  | nil => exact h
  | cons x calls ih => exact ih (h.perform x)

theorem consistent_run (calls : List (DeviceCall V)) : (run calls : Device V).Consistent :=
  consistent_empty.performAll calls

/-! ## Times of starts -/

/-- The call ends a playback that has gone on since some time. -/
def Ends (d : Device V) (id start : UInt32) : DeviceCall V → Prop
  | .store _ => False
  | .remove other | .stop other => other = id
  | .start other now => other = id ∧ (d.start other now).2.isOk = true
  | .stopAll => True
  | .tick now => (d.durationOf id).toNat ≤ elapsed start now

/-- Some call started the effect at a time, and no call since then ended this playback. -/
def StartedAt (id start : UInt32) : List (DeviceCall V) → Prop :=
  Since (fun before x => x = .start id start ∧ ((run before).start id start).2.isOk = true)
    fun before x => (run before).Ends id start x

theorem get?_playing_perform_eq_some_iff (d : Device V) (x : DeviceCall V) (id start : UInt32) :
    (d.perform x).playing.get? id = some start ↔
      (x = .start id start ∧ (d.start id start).2.isOk = true) ∨
        (d.playing.get? id = some start ∧ ¬d.Ends id start x) := by
  rw [get?_playing_perform]
  cases x with
  | store e => simp [Ends]
  | remove other => simp [Ends, and_comm]
  | start other now =>
    dsimp only [Ends]
    by_cases h : other = id ∧ (d.start other now).2.isOk = true
    · rw [if_pos h]
      obtain ⟨rfl, hok⟩ := h
      constructor
      · intro heq
        obtain rfl := Option.some.inj heq
        exact .inl ⟨rfl, hok⟩
      · rintro (⟨heq, -⟩ | ⟨-, hends⟩)
        · rw [(DeviceCall.start.inj heq).2]
        · exact absurd ⟨rfl, hok⟩ hends
    · have hother : ¬((.start other now : DeviceCall V) = .start id start ∧
          (d.start id start).2.isOk = true) := by
        rintro ⟨heq, hok⟩
        obtain ⟨rfl, rfl⟩ := DeviceCall.start.inj heq
        exact h ⟨rfl, hok⟩
      simp only [h, hother, if_false, not_false_eq_true, and_true, false_or]
  | stop other => simp [Ends, and_comm]
  | stopAll => simp [Ends]
  | tick now => simp [Ends, Option.filter_eq_some_iff]

theorem run_concat (calls : List (DeviceCall V)) (x : DeviceCall V) :
    (run (calls ++ [x]) : Device V) = (run calls).perform x := by
  rw [run, performAll, List.foldl_append]
  rfl

/-- What is playing counts from the time that was given when it was started. -/
theorem playing_run_iff (calls : List (DeviceCall V)) (id start : UInt32) :
    (run calls : Device V).playing.get? id = some start ↔ StartedAt id start calls := by
  induction calls using List.reverseRec with
  | nil => exact iff_of_false (fun h => by cases h) not_since_nil
  | append_singleton calls x ih =>
    rw [run_concat, get?_playing_perform_eq_some_iff, StartedAt, since_concat, ← StartedAt, ih]

/-- After any calls of a new device, only stored effects play, and what plays counts from the time
given with its last start, which no call has ended. A tick ends exactly the playback of the effects
that have reached their duration since then on a clock that goes round, and leaves the rest alone;
ticking again at once gives the same forces and changes nothing. A start succeeds for stored effects
that are ready and changes nothing otherwise. A call about one effect leaves alone what is stored
and when playing began for every other one. -/
theorem run_playback (calls : List (DeviceCall V)) :
    let d : Device V := run calls
    (∀ id, d.isPlaying id = true → ∃ e, d.effects.get? id = some e ∧ e.id = id) ∧
    (∀ id start, d.playing.get? id = some start ↔ StartedAt id start calls) ∧
    (∀ now,
      (d.tick now).2.effects = d.effects ∧
      (∀ id e start, d.effects.get? id = some e → StartedAt id start calls →
        (d.tick now).2.playing.get? id =
          if (e.duration.getD 0).toNat ≤ elapsed start now then none else some start) ∧
      (∀ id, d.playing.get? id = none → (d.tick now).2.playing.get? id = none) ∧
      (d.tick now).2.tick now = d.tick now) ∧
    (∀ id now,
      ((d.start id now).2.isOk = true ↔ ∃ e, d.effects.get? id = some e ∧ e.Ready) ∧
      ((d.start id now).2.isOk = false → (d.start id now).1 = d)) ∧
    (∀ x id other, x.id? = some id → id ≠ other →
      (d.perform x).effects.get? other = d.effects.get? other ∧
      (d.perform x).playing.get? other = d.playing.get? other) := by
  intro d
  have hd : d.Consistent := consistent_run calls
  refine ⟨?_, playing_run_iff calls, ?_, ?_, fun x id other => d.perform_other⟩
  · intro id hid
    obtain ⟨start, hstart⟩ := Option.isSome_iff_exists.mp hid
    obtain ⟨e, he⟩ := Option.isSome_iff_exists.mp (hd.stored hstart)
    exact ⟨e, he, hd.id_eq he⟩
  · intro now
    refine ⟨rfl, ?_, ?_, d.tick_tick now⟩
    · intro id e start he hstart
      have hduration : d.durationOf id = e.duration.getD 0 := by
        rw [durationOf, he]
        rfl
      rw [get?_playing_tick, (playing_run_iff calls id start).mpr hstart, hduration,
        Option.filter_some]
      by_cases h : (e.duration.getD 0).toNat ≤ elapsed start now
      · rw [if_pos h, if_neg]
        simpa using h
      · rw [if_neg h, if_pos]
        simpa using h
    · intro id hid
      rw [get?_playing_tick, hid]
      rfl
  · intro id now
    refine ⟨d.isOk_start_iff id now, fun hfail => ?_⟩
    have hperform := d.perform_start id now
    rw [hfail] at hperform
    exact hperform

/-- An effect of 200 milliseconds is started 96 milliseconds before the clock goes round. It still
plays when the clock shows 103, and no longer when it shows 104. -/
theorem run_playback_new_round :
    let e : Effect Float32 :=
      { id := 1, kind := .constant 1000, duration := some 200, samplePeriod := 1, gain := gainMax,
        envelope := none, direction := .default, axes := [.x] }
    let calls : List (DeviceCall Float32) :=
      [.store e, .start 1 100, .start 1 4294967200, .tick 4294967295, .start 2 7]
    let d : Device Float32 := run calls
    StartedAt 1 4294967200 calls ∧ ¬StartedAt 1 100 calls ∧
      (d.tick 103).2.playing.get? 1 = some 4294967200 ∧
      (d.tick 104).2.playing.get? 1 = none := by
  intro e calls d
  obtain ⟨-, hplaying, htick, -, -⟩ := run_playback calls
  have hstart : d.playing.get? 1 = some 4294967200 := by decide +kernel
  have hstarted : StartedAt 1 4294967200 calls := (hplaying 1 4294967200).mp hstart
  have hstored : d.effects.get? 1 = some e := rfl
  refine ⟨hstarted, fun h => ?_, ?_, ?_⟩
  · have hother := (hplaying 1 100).mpr h
    rw [hstart] at hother
    exact absurd hother (by decide)
  · exact (htick 103).2.1 1 e 4294967200 hstored hstarted
  · exact (htick 104).2.1 1 e 4294967200 hstored hstarted

end Device

end VirtualPad
