import VirtualPad.Force.Change

/-!
# Effects as programs make them

A program makes an effect by creating it and changing it, and goes on with an effect only if every
change was accepted. `Accepted` says what an accepted change amounts to, with the checks it has
passed, and `Sound` collects the checks that every effect made this way passes.
-/

namespace VirtualPad

variable {V W : Type} [Scalar V] [Scalar W] [Precision V W]

/-- The direction can be set from coordinates, or it is the default. -/
def Direction.Made (d : Direction V) : Prop :=
  d = .default ∨ ∃ system coordinates, ofCoordinates system coordinates = .ok d

/-- The levels of an envelope are in the range of magnitudes, and it fits into the duration, if
there is one. -/
def Envelope.Sound (v : Envelope V) (duration : Option UInt32) : Prop :=
  Scalar.within Scalar.zero magnitudeMax v.attackLevel = true ∧
    Scalar.within Scalar.zero magnitudeMax v.fadeLevel = true ∧ duration.all v.fits = true

namespace Effect

/-- An accepted change, with what has been checked. -/
inductive Accepted (e : Effect V) : EffectChange V → Effect V → Prop where
  | kind {kind : EffectKind V} (h : kind.check = .ok ()) : Accepted e (.kind kind) { e with kind }
  | duration {duration : UInt32} (h : e.envelope.all (·.fits duration) = true) :
    Accepted e (.duration duration) { e with duration := some duration }
  | samplePeriod (period : UInt32) :
    Accepted e (.samplePeriod period) { e with samplePeriod := max period 1 }
  | gain {gain : UInt32} (h : gain ≤ gainMax) : Accepted e (.gain gain) { e with gain }
  | envelope {envelope : Option (Envelope V)} (h : ∀ v ∈ envelope, v.Sound e.duration) :
    Accepted e (.envelope envelope) { e with envelope }
  | axes {axes : List Axis} (h : axes ≠ []) : Accepted e (.axes axes) { e with axes }
  | direction {system : CoordinateSystem} {coordinates : List V} {direction : Direction V}
    (h : Direction.ofCoordinates system coordinates = .ok direction) :
    Accepted e (.direction system coordinates) { e with direction }

/-- A program can have made the effect. -/
def Made (e : Effect V) : Prop :=
  ∃ id kind changes new, create id kind = .ok new ∧ new.changeAll changes = (e, .ok ())

theorem create_eq_ok {id : UInt32} {kind : EffectKind V} {e : Effect V}
    (h : create id kind = .ok e) :
    kind.check = .ok () ∧
      e = { id, kind, duration := none, samplePeriod := 1, gain := gainMax, envelope := none,
            direction := .default, axes := [] } := by
  unfold create at h
  cases hkind : kind.check with
  | error err =>
    rw [hkind] at h
    cases h
  | ok u =>
    rw [hkind] at h
    exact ⟨rfl, (Except.ok.inj h).symm⟩

/-- What a setter does: it rejects its argument and leaves the effect as it is, or it accepts. -/
inductive Answers {ε : Type} (e : Effect V) (accepted : Effect V → Prop) :
    Effect V × Except ε Unit → Prop where
  | rejects (err : ε) : Answers e accepted (e, .error err)
  | accepts {e' : Effect V} (h : accepted e') : Answers e accepted (e', .ok ())

omit [Scalar V] in
theorem Answers.asChange {e : Effect V} {accepted : Effect V → Prop}
    {r : Effect V × Except (EffectError V) Unit} (h : e.Answers accepted r) :
    e.Answers accepted (asChange r) := by
  cases h with
  | rejects err => exact .rejects (ChangeError.effect err)
  | accepts h => exact .accepts h

theorem answers_change (e : Effect V) (c : EffectChange V) :
    e.Answers (e.Accepted c) (e.change c) := by
  cases c with
  | kind kind =>
    refine .asChange ?_
    rw [setKind]
    split
    · exact .rejects _
    · rename_i h
      exact .accepts (.kind h)
  | duration duration =>
    refine .asChange ?_
    rw [setDuration]
    split
    · rename_i h
      exact .accepts (.duration h)
    · exact .rejects _
  | samplePeriod period => exact .accepts (.samplePeriod period)
  | gain gain =>
    refine .asChange ?_
    rw [setGain]
    split
    · rename_i h
      exact .accepts (.gain h)
    · exact .rejects _
  | envelope envelope =>
    refine .asChange ?_
    cases envelope with
    | none => exact .accepts (.envelope fun v hv => by cases hv)
    | some v =>
      rw [setEnvelope]
      split
      · exact .rejects _
      split
      · exact .rejects _
      split
      · rename_i hattack hfade hfits
        refine .accepts (.envelope fun u hu => ?_)
        obtain rfl := Option.mem_some_iff.mp hu
        exact ⟨by simpa using hattack, by simpa using hfade, hfits⟩
      · exact .rejects _
  | axes axes =>
    refine .asChange ?_
    rw [setAxes]
    split
    · exact .rejects _
    · rename_i h
      exact .accepts (.axes h)
  | direction system coordinates =>
    rw [change]
    split
    · rename_i h
      exact .accepts (.direction h)
    · exact .rejects _

theorem accepted_of_change {e e' : Effect V} {c : EffectChange V}
    (h : e.change c = (e', .ok ())) : e.Accepted c e' := by
  have hanswers := e.answers_change c
  rw [h] at hanswers
  cases hanswers with
  | accepts h => exact h

theorem changeAll_induction {motive : Effect V → Prop}
    (step : ∀ {e e' : Effect V} {c : EffectChange V}, motive e → e.Accepted c e' → motive e')
    {e e' : Effect V} (he : motive e) {changes : List (EffectChange V)}
    (h : e.changeAll changes = (e', .ok ())) : motive e' := by
  induction changes generalizing e with
  | nil =>
    obtain rfl := (Prod.mk.inj h).1
    exact he
  | cons c changes ih =>
    unfold changeAll at h
    split at h
    · rename_i next hnext
      exact ih (step he (accepted_of_change hnext)) h
    · cases h

/-! ## Checks that were passed -/

/-- Every parameter has passed its check. -/
structure Sound (e : Effect V) : Prop where
  kind : e.kind.check = .ok ()
  gain : e.gain ≤ gainMax
  samplePeriod : 1 ≤ e.samplePeriod
  envelope : ∀ v ∈ e.envelope, v.Sound e.duration
  direction : e.direction.Made

theorem sound_create {id : UInt32} {kind : EffectKind V} {e : Effect V}
    (h : create id kind = .ok e) : e.Sound := by
  obtain ⟨hkind, rfl⟩ := create_eq_ok h
  exact ⟨hkind, UInt32.le_refl _, UInt32.le_refl _, fun v hv => by simp at hv, .inl rfl⟩

theorem Accepted.sound {e e' : Effect V} {c : EffectChange V} (h : e.Accepted c e') (he : e.Sound) :
    e'.Sound := by
  cases h with
  | kind h => exact { he with kind := h }
  | duration h =>
    refine { he with envelope := fun v hv => ?_ }
    obtain ⟨hattack, hfade, -⟩ := he.envelope v hv
    refine ⟨hattack, hfade, ?_⟩
    rw [Option.mem_def.mp hv] at h
    exact h
  | samplePeriod period =>
    refine { he with samplePeriod := ?_ }
    show 1 ≤ if period ≤ 1 then 1 else period
    split
    · exact UInt32.le_refl 1
    · rename_i hperiod
      exact UInt32.le_of_lt (UInt32.not_le.mp hperiod)
  | gain h => exact { he with gain := h }
  | envelope h => exact { he with envelope := h }
  | axes h => exact { he with }
  | direction h => exact { he with direction := .inr ⟨_, _, h⟩ }

theorem Made.sound {e : Effect V} (h : e.Made) : e.Sound := by
  obtain ⟨id, kind, changes, new, hnew, hchanges⟩ := h
  exact changeAll_induction (fun he ha => ha.sound he) (sound_create hnew) hchanges

end Effect

end VirtualPad
