import VirtualPad.Proofs.Force.Readiness

/-!
# Effects without an end

An infinite duration is the greatest number of milliseconds, and a tick compares it like any other
with the time an effect has played. That time is counted on a clock that goes round, so it can be
the greatest number too: after one round less a millisecond, or in a tick one millisecond before the
start. At that time, and at no other, a tick ends an effect that should not end.
-/

namespace VirtualPad

variable {V W : Type} [Scalar V] [Scalar W] [Precision V W]

/-- The call may end an effect or change it. -/
def DeviceCall.Touches (id : UInt32) : DeviceCall V → Prop
  | .store e => e.id = id
  | .remove other | .stop other => other = id
  | .stopAll => True
  | .start _ _ | .tick _ => False

namespace Device

/-- The stored effect with a given id has no end. -/
def Endless (d : Device V) (id : UInt32) : Prop :=
  ∃ e, d.effects.get? id = some e ∧ e.duration = some infiniteTime

omit [Scalar V] in
theorem Endless.durationOf_eq {d : Device V} {id : UInt32} (h : d.Endless id) :
    d.durationOf id = infiniteTime := by
  obtain ⟨e, he, hduration⟩ := h
  rw [durationOf, he, Option.bind_some, hduration, Option.getD_some]

theorem elapsed_lt_infiniteTime_iff (start now : UInt32) :
    elapsed start now < infiniteTime.toNat ↔ elapsed start now ≠ infiniteTime.toNat := by
  have hlt : elapsed start now < 4294967296 := Nat.mod_lt _ (by decide)
  have hinfinite : infiniteTime.toNat = 4294967295 := rfl
  omega

theorem Endless.perform {d : Device V} {id : UInt32} (h : d.Endless id) {x : DeviceCall V}
    (hx : ¬x.Touches id) : (d.perform x).Endless id := by
  obtain ⟨e, he, hduration⟩ := h
  refine ⟨e, ?_, hduration⟩
  rw [get?_effects_perform]
  cases x with
  | store f => exact (if_neg hx).trans he
  | remove other => exact (if_neg hx).trans he
  | start other now => exact he
  | stop other => exact he
  | stopAll => exact he
  | tick now => exact he

/-- A call that leaves an endless effect alone ends it in one case only. -/
theorem Endless.isPlaying_perform_iff {d : Device V} {id : UInt32} (h : d.Endless id)
    (hplaying : d.isPlaying id = true) {x : DeviceCall V} (hx : ¬x.Touches id) :
    (d.perform x).isPlaying id = true ↔
      ∀ now start, x = .tick now → d.playing.get? id = some start →
        elapsed start now ≠ infiniteTime.toNat := by
  obtain ⟨start, hstart⟩ := (d.isPlaying_iff id).mp hplaying
  rw [isPlaying_iff, get?_playing_perform]
  cases x with
  | store f => simp [hstart]
  | remove other => simpa [hstart, DeviceCall.Touches] using hx
  | start other now =>
    dsimp only
    split
    · simp
    · simp [hstart]
  | stop other => simpa [hstart, DeviceCall.Touches] using hx
  | stopAll => exact absurd trivial hx
  | tick now =>
    simp only [hstart, Option.filter_some, h.durationOf_eq, elapsed_lt_infiniteTime_iff,
      DeviceCall.tick.injEq, Option.some.injEq]
    by_cases hround : elapsed start now = infiniteTime.toNat
    · simp [hround]
    · simp [hround]

/-- As long as an endless effect is not stopped, removed or stored anew, it plays through all of a
run, exactly if no tick comes when the clock has gone one round less a millisecond since its start.
-/
theorem run_endless_iff (calls later : List (DeviceCall V)) (id : UInt32)
    (hendless : (run calls : Device V).Endless id)
    (hplaying : (run calls : Device V).isPlaying id = true)
    (hlater : ∀ x ∈ later, ¬x.Touches id) :
    (∀ during, during <+: later → (run (calls ++ during) : Device V).isPlaying id = true) ↔
      ∀ during now start, during ++ [.tick now] <+: later →
        (run (calls ++ during) : Device V).playing.get? id = some start →
        elapsed start now ≠ infiniteTime.toNat := by
  have hconcat (during : List (DeviceCall V)) (x : DeviceCall V) :
      (run (calls ++ (during ++ [x])) : Device V) = (run (calls ++ during)).perform x := by
    rw [← List.append_assoc, run_concat]
  have huntouched {during : List (DeviceCall V)} {x : DeviceCall V}
      (h : during ++ [x] <+: later) : ¬x.Touches id :=
    hlater x (h.subset (List.mem_append_right _ (List.mem_singleton.mpr rfl)))
  -- What is stored stays as it is, one call at a time.
  have hstays (during : List (DeviceCall V)) (h : during <+: later) :
      (run (calls ++ during) : Device V).Endless id := by
    induction during using List.reverseRec with
    | nil => rwa [List.append_nil]
    | append_singleton during x ih =>
      rw [hconcat]
      exact (ih ((List.prefix_append ..).trans h)).perform (huntouched h)
  constructor
  · intro hall during now start h hstart
    have hbefore : during <+: later := (List.prefix_append ..).trans h
    have hafter := hall _ h
    rw [hconcat, (hstays during hbefore).isPlaying_perform_iff (hall during hbefore)
      (huntouched h)] at hafter
    exact hafter now start rfl hstart
  · intro hticks during
    induction during using List.reverseRec with
    | nil =>
      intro _
      rwa [List.append_nil]
    | append_singleton during x ih =>
      intro h
      have hbefore : during <+: later := (List.prefix_append ..).trans h
      rw [hconcat, (hstays during hbefore).isPlaying_perform_iff (ih hbefore) (huntouched h)]
      rintro now start rfl hstart
      exact hticks during now start h hstart

/-- An endless effect of magnitude 1000 on the first axis. -/
def endlessEffect : Effect Float32 :=
  { id := 1, kind := .constant 1000, duration := some infiniteTime, samplePeriod := 1,
    gain := gainMax, envelope := none, direction := .default, axes := [.x] }

/-- Started shortly before the clock goes round, an endless effect plays on in the new round. -/
theorem run_endless_iff_new_round :
    let calls : List (DeviceCall Float32) := [.store endlessEffect, .start 1 4294967290]
    let later : List (DeviceCall Float32) := [.tick 4294967295, .tick 4294967288]
    (run calls : Device Float32).Endless 1 ∧ (run calls : Device Float32).isPlaying 1 = true ∧
      (∀ x ∈ later, ¬x.Touches 1) ∧
      ∀ during, during <+: later → (run (calls ++ during) : Device Float32).isPlaying 1 = true := by
  intro calls later
  have hendless : (run calls : Device Float32).Endless 1 := ⟨endlessEffect, rfl, rfl⟩
  have hplaying : (run calls : Device Float32).isPlaying 1 = true := by decide +kernel
  have hlater : ∀ x ∈ later, ¬x.Touches 1 := by simp [later, DeviceCall.Touches]
  refine ⟨hendless, hplaying, hlater, ?_⟩
  refine (run_endless_iff calls later 1 hendless hplaying hlater).mpr ?_
  intro during now start h hstart
  match during with
  | [] =>
    obtain rfl : now = 4294967295 := by simpa [later] using h
    have hstart' : (run (calls ++ []) : Device Float32).playing.get? 1 = some 4294967290 := by
      decide +kernel
    obtain rfl := Option.some.inj (hstart.symm.trans hstart')
    decide
  | [x] =>
    obtain ⟨rfl, rfl⟩ : x = .tick 4294967295 ∧ now = 4294967288 := by simpa [later] using h
    have hstart' : (run (calls ++ [.tick 4294967295]) : Device Float32).playing.get? 1 =
        some 4294967290 := by decide +kernel
    obtain rfl := Option.some.inj (hstart.symm.trans hstart')
    decide
  | x :: y :: rest =>
    have hlength := h.length_le
    simp [later] at hlength

/-- A tick one millisecond before the start ends an endless effect, which programs can make. -/
theorem endless_ended :
    (∃ new, Effect.create 1 (.constant 1000) = .ok new ∧
        new.changeAll [.duration infiniteTime, .axes [.x]] = (endlessEffect, .ok ())) ∧
      let d : Device Float32 := run [.store endlessEffect, .start 1 1]
      d.Endless 1 ∧ d.isPlaying 1 = true ∧ (d.perform (.tick 0)).isPlaying 1 = false := by
  refine ⟨⟨_, rfl, rfl⟩, ⟨endlessEffect, rfl, rfl⟩, ?_, ?_⟩
  · decide +kernel
  · decide +kernel

end Device

end VirtualPad
