import VirtualPad.Proofs.Force.Made
import VirtualPad.Proofs.Force.Playback

/-!
# Readiness of what is playing

A start checks that the effect can be played. Storing an effect checks nothing, and an effect that
is playing goes on with the parameters of the copy stored in its place. So an effect that plays is
ready as long as every such copy is, and a copy can stop being ready in one way only: its direction
and its axes no longer go together.
-/

namespace VirtualPad

variable {V W : Type} [Scalar V] [Scalar W] [Precision V W]

namespace Effect

omit [Scalar V] in
theorem ready_iff (e : Effect V) :
    e.Ready ↔ e.axes ≠ [] ∧ e.direction.axisCount = e.axes.length ∧ e.duration.isSome = true := by
  unfold Ready checkReady
  split
  · rename_i h
    simp [h]
  · rename_i haxes
    split
    · rename_i h
      simp [h]
    · rename_i hcount
      have hcount : e.direction.axisCount = e.axes.length := Decidable.not_not.mp hcount
      split
      · rename_i h
        simp [Option.isNone_iff_eq_none.mp h]
      · rename_i h
        refine ⟨fun _ => ⟨haxes, hcount, ?_⟩, fun _ => rfl⟩
        simpa [Option.isSome_iff_ne_none] using h

theorem Accepted.keeps {e e' : Effect V} {c : EffectChange V} (h : e.Accepted c e') :
    e'.id = e.id ∧ (e.axes ≠ [] → e'.axes ≠ []) ∧
      (e.duration.isSome = true → e'.duration.isSome = true) := by
  cases h with
  | duration h => exact ⟨rfl, fun h => h, fun _ => rfl⟩
  | axes h => exact ⟨rfl, fun _ => h, fun h => h⟩
  | _ => exact ⟨rfl, fun h => h, fun h => h⟩

/-- A changed copy of an effect that is ready is ready unless its direction and its axes do not go
together. -/
theorem ready_changeAll_iff {e e' : Effect V} (he : e.Ready) {changes : List (EffectChange V)}
    (h : e.changeAll changes = (e', .ok ())) :
    e'.id = e.id ∧ (e'.Ready ↔ e'.direction.axisCount = e'.axes.length) := by
  obtain ⟨haxes, -, hduration⟩ := e.ready_iff.mp he
  have hkeeps : e'.id = e.id ∧ e'.axes ≠ [] ∧ e'.duration.isSome = true := by
    refine changeAll_induction (motive := fun f => f.id = e.id ∧ f.axes ≠ [] ∧
      f.duration.isSome = true) ?_ ⟨rfl, haxes, hduration⟩ h
    rintro f f' c ⟨hid, hf, hd⟩ hc
    obtain ⟨hid', hf', hd'⟩ := hc.keeps
    exact ⟨hid'.trans hid, hf' hf, hd' hd⟩
  obtain ⟨hid, haxes', hduration'⟩ := hkeeps
  refine ⟨hid, ?_⟩
  rw [ready_iff]
  constructor
  · exact fun h => h.2.1
  · exact fun h => ⟨haxes', h, hduration'⟩

end Effect

namespace Device

/-- Every effect that is playing can be played. -/
def PlayingReady (d : Device V) : Prop :=
  ∀ id e, d.isPlaying id = true → d.effects.get? id = some e → e.Ready

omit [Scalar V] in
theorem isPlaying_iff (d : Device V) (id : UInt32) :
    d.isPlaying id = true ↔ ∃ start, d.playing.get? id = some start := Option.isSome_iff_exists

/-- The effect that plays after a call was playing and is what was stored, or was started by the
call, or is stored by the call in place of what was playing. -/
theorem playing_perform_cases {d : Device V} {x : DeviceCall V} {id : UInt32} {e : Effect V}
    (hp : (d.perform x).isPlaying id = true) (he : (d.perform x).effects.get? id = some e) :
    (d.isPlaying id = true ∧ d.effects.get? id = some e) ∨ e.Ready ∨
      (x = .store e ∧ id = e.id ∧ d.isPlaying id = true) := by
  obtain ⟨start, hstart⟩ := (isPlaying_iff ..).mp hp
  rw [get?_playing_perform] at hstart
  rw [get?_effects_perform] at he
  cases x with
  | store f =>
    have hplaying : d.isPlaying id = true := (isPlaying_iff ..).mpr ⟨start, hstart⟩
    dsimp only at he
    split at he
    · rename_i hid
      obtain rfl := Option.some.inj he
      exact .inr (.inr ⟨rfl, hid.symm, hplaying⟩)
    · exact .inl ⟨hplaying, he⟩
  | remove k =>
    dsimp only at hstart he
    split at hstart
    · cases hstart
    · rename_i hk
      rw [if_neg hk] at he
      exact .inl ⟨(isPlaying_iff ..).mpr ⟨start, hstart⟩, he⟩
  | start k now =>
    dsimp only at hstart he
    split at hstart
    · rename_i hk
      obtain ⟨f, hf, hready⟩ := (d.isOk_start_iff k now).mp hk.2
      rw [hk.1, he] at hf
      obtain rfl := Option.some.inj hf
      exact .inr (.inl hready)
    · exact .inl ⟨(isPlaying_iff ..).mpr ⟨start, hstart⟩, he⟩
  | stop k =>
    dsimp only at hstart
    split at hstart
    · cases hstart
    · exact .inl ⟨(isPlaying_iff ..).mpr ⟨start, hstart⟩, he⟩
  | stopAll => cases hstart
  | tick now =>
    exact .inl ⟨(isPlaying_iff ..).mpr ⟨start, (Option.filter_eq_some_iff.mp hstart).1⟩, he⟩

/-- Only storing an effect in place of one that is playing can break readiness. -/
theorem PlayingReady.perform_iff {d : Device V} (h : d.PlayingReady) (x : DeviceCall V) :
    (d.perform x).PlayingReady ↔ ∀ e, x = .store e → d.isPlaying e.id = true → e.Ready := by
  constructor
  · rintro hready e rfl hp
    have hstored : (d.perform (.store e)).effects.get? e.id = some e := by
      rw [get?_effects_perform]
      exact if_pos rfl
    exact hready e.id e hp hstored
  · intro hstore id e hp he
    rcases playing_perform_cases hp he with ⟨hp', he'⟩ | hready | ⟨rfl, rfl, hp'⟩
    · exact h id e hp' he'
    · exact hready
    · exact hstore e rfl hp'

/-- Through all of a run every effect that is playing can be played, exactly if that holds of every
effect that the run stores in place of one that is playing. A changed copy of an effect that can be
played can be played too, exactly if its direction has as many components as it has axes. -/
theorem run_playingReady_iff (calls : List (DeviceCall V)) :
    ((∀ before, before <+: calls → (run before : Device V).PlayingReady) ↔
      ∀ before e, before ++ [.store e] <+: calls →
        (run before : Device V).isPlaying e.id = true → e.Ready) ∧
    ∀ (e e' : Effect V) (changes : List (EffectChange V)), e.Ready →
      e.changeAll changes = (e', .ok ()) →
      e'.id = e.id ∧ (e'.Ready ↔ e'.direction.axisCount = e'.axes.length) := by
  refine ⟨⟨?_, ?_⟩, fun e e' changes he h => Effect.ready_changeAll_iff he h⟩
  · intro h before e hprefix hp
    have hbefore := h before ((List.prefix_append ..).trans hprefix)
    have hafter := h (before ++ [.store e]) hprefix
    rw [run_concat] at hafter
    exact (hbefore.perform_iff _).mp hafter e rfl hp
  · intro hstores before
    -- Along the prefix, one call at a time.
    induction before using List.reverseRec with
    | nil =>
      intro _ id e hp
      cases hp
    | append_singleton before x ih =>
      intro hprefix
      have hbefore := ih ((List.prefix_append ..).trans hprefix)
      rw [run_concat, hbefore.perform_iff]
      rintro e rfl hp
      exact hstores before e hprefix hp

/-- An effect that plays over one axis is replaced by a copy over two, which does not match its
direction. The copy plays. -/
theorem playing_mismatched_axes :
    let e : Effect Float32 :=
      { id := 1, kind := .constant 1000, duration := some 1000, samplePeriod := 1, gain := gainMax,
        envelope := none, direction := .default, axes := [.x] }
    let copy : Effect Float32 := { e with axes := [.x, .y] }
    let d : Device Float32 := run [.store e, .start 1 0, .store copy]
    (∃ new, Effect.create 1 (.constant 1000) = .ok new ∧
        new.changeAll [.duration 1000, .axes [.x]] = (e, .ok ())) ∧
      e.changeAll [.axes [.x, .y]] = (copy, .ok ()) ∧
      d.isPlaying 1 = true ∧ d.effects.get? 1 = some copy ∧
      copy.checkReady = .error (.axisCountMismatch 1 2) := by
  intro e copy d
  exact ⟨⟨_, rfl, rfl⟩, rfl, by decide +kernel, rfl, rfl⟩

end Device

end VirtualPad
