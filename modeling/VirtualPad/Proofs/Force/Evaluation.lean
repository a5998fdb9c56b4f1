import VirtualPad.Proofs.Force.Readiness
import VirtualPad.Proofs.Number.Words

/-!
# Evaluation without faults

Setters may be called in any order, with any arguments. Whatever they accept, an effect stays
`Sound`, and a sound effect can be evaluated at every time: `magnitude?` works the magnitude out step
by step and stops where something would be divided by zero or a time would become negative, and it
never stops.
-/

namespace VirtualPad

open Scalar Precision

/-! ## Operations that may be impossible -/

/-- The quotient, unless the divisor is zero. -/
def quotient? {α : Type} [Scalar α] (a b : α) : Option α :=
  if eq b zero then none else some (a / b)

/-- The difference, unless it is negative. -/
def difference? (a b : UInt32) : Option UInt32 := if b ≤ a then some (a - b) else none

/-- The remainder, unless the divisor is zero. -/
def remainder? (a b : UInt32) : Option UInt32 := if b = 0 then none else some (a % b)

theorem quotient?_eq_some {α : Type} [Scalar α] {a b : α} (h : eq b zero = false) :
    quotient? a b = some (a / b) := if_neg (by rw [h]; exact Bool.false_ne_true)

theorem difference?_eq_some {a b : UInt32} (h : b ≤ a) : difference? a b = some (a - b) := if_pos h

theorem remainder?_eq_some {a b : UInt32} (h : b ≠ 0) : remainder? a b = some (a % b) := if_neg h

variable {V W : Type} [Scalar V] [Scalar W] [Precision V W]

/-! ## Step by step

The definitions of a magnitude, with every quotient, remainder and difference of times as a step
that may be impossible.
-/

def sawtooth? (phase : V) : Option V := do
  let half ← quotient? fullTurn (ofWord 2)
  let ratio ← quotient? phase half
  return if lt phase half then ratio else ratio - ofWord 2

def Waveform.value? (w : Waveform) (phase : V) : Option V := do
  let quarter ← quotient? fullTurn (ofWord 4)
  let half ← quotient? fullTurn (ofWord 2)
  match w with
  | .sine =>
    let degrees ← quotient? phase (ofWord 100)
    return sin (degrees * degree)
  | .square => return if lt phase half then ofWord 1 else -ofWord 1
  | .triangle =>
    let ratio ← quotient? phase quarter
    return if lt phase quarter then ratio
      else if lt phase (ofWord 3 * quarter) then ofWord 2 - ratio
      else ratio - ofWord 4
  | .sawtoothUp => sawtooth? phase
  | .sawtoothDown =>
    let up ← sawtooth? phase
    return -up

def phaseAt? (time period : UInt32) (offset : V) : Option V := do
  let periods ← quotient? (ofWord time) (ofWord period : W)
  return narrow (wrapTurn (round ((periods - floor periods) * fullTurn + widen offset)))

namespace Effect

def enveloped? (e : Effect V) (time : UInt32) (sustain : V) : Option V :=
  match e.envelope with
  | none => return sustain
  | some v =>
    let start := fadeStart (e.duration.getD 0) v
    if time < v.attackTime then do
      let slope ← quotient? (sustain - v.attackLevel) (ofWord v.attackTime)
      return v.attackLevel + slope * ofWord time
    else if start < time ∧ 0 < v.fadeTime then do
      let slope ← quotient? (v.fadeLevel - sustain) (ofWord v.fadeTime)
      let since ← difference? time start
      return sustain + slope * ofWord since
    else return sustain

def rawMagnitude? (e : Effect V) (time : UInt32) : Option V :=
  match e.kind with
  | .constant m =>
    if le zero m then e.enveloped? time m
    else do
      let level ← e.enveloped? time (-m)
      return -level
  | .periodic waveform amplitude offset phase period => do
    let level ← e.enveloped? time amplitude
    let phase ← phaseAt? (W := W) time period phase
    let wave ← waveform.value? phase
    return clamp (-magnitudeMax) magnitudeMax (level * wave + offset)

def magnitude? (e : Effect V) (time : UInt32) : Option V :=
  if e.isFinishedAt time then return zero
  else do
    let beyond ← remainder? time e.samplePeriod
    let sampled ← difference? time beyond
    let raw ← e.rawMagnitude? (W := W) sampled
    let fraction ← quotient? (ofWord e.gain) (ofWord gainMax)
    return raw * fraction

end Effect

section

variable [Divisors V]

theorem sawtooth?_eq (phase : V) : sawtooth? phase = some (sawtooth phase) := by
  have hhalf : eq (fullTurn / ofWord 2 : V) zero = false := Divisors.halfTurn
  rw [sawtooth?, quotient?_eq_some (Divisors.ofWord (by decide)), Option.bind_eq_bind,
    Option.bind_some, quotient?_eq_some hhalf]
  unfold sawtooth
  dsimp only
  split <;> rfl

theorem Waveform.value?_eq (w : Waveform) (phase : V) : w.value? phase = some (w.value phase) := by
  have hword {n : UInt32} (hn : n ≠ 0) (a : V) : quotient? a (ofWord n) = some (a / ofWord n) :=
    quotient?_eq_some (Divisors.ofWord hn)
  have hquarter (a : V) : quotient? a (fullTurn / ofWord 4) = some (a / (fullTurn / ofWord 4)) :=
    quotient?_eq_some Divisors.quarterTurn
  have htwo : (2 : UInt32) ≠ 0 := by decide
  have hfour : (4 : UInt32) ≠ 0 := by decide
  have hhundred : (100 : UInt32) ≠ 0 := by decide
  cases w with
  | sine => simp [value?, value, hword, htwo, hfour, hhundred]
  | square => simp [value?, value, hword, htwo, hfour]
  | triangle => simp [value?, value, hword, htwo, hfour, hquarter]
  | sawtoothUp => simp [value?, value, hword, htwo, hfour, sawtooth?_eq]
  | sawtoothDown => simp [value?, value, hword, htwo, hfour, sawtooth?_eq]

end

section

variable [Divisors W]

omit [Scalar V] in
theorem phaseAt?_eq (time : UInt32) {period : UInt32} (hperiod : period ≠ 0) (offset : V) :
    phaseAt? (W := W) time period offset = some (phaseAt (W := W) time period offset) := by
  rw [phaseAt?, quotient?_eq_some (Divisors.ofWord hperiod)]
  rfl

end

theorem EffectKind.period_ne_zero {waveform : Waveform} {amplitude offset phase : V}
    {period : UInt32}
    (h : (EffectKind.periodic waveform amplitude offset phase period).check = .ok ()) :
    period ≠ 0 := by
  rw [check] at h
  split at h
  · cases h
  split at h
  · cases h
  split at h
  · cases h
  split at h
  · cases h
  · assumption

namespace Effect

variable [Divisors V] [Divisors W]

omit [Divisors W] in
theorem enveloped?_eq (e : Effect V) (time : UInt32) (sustain : V) :
    e.enveloped? time sustain = some (e.enveloped time sustain) := by
  unfold enveloped? enveloped
  cases e.envelope with
  | none => rfl
  | some v =>
    dsimp only
    split
    · rename_i hattack
      have htime : v.attackTime ≠ 0 := fun hzero => UInt32.not_lt_zero (hzero ▸ hattack)
      rw [quotient?_eq_some (Divisors.ofWord htime)]
      rfl
    · split
      · rename_i hfade
        have htime : v.fadeTime ≠ 0 := UInt32.pos_iff_ne_zero.mp hfade.2
        rw [quotient?_eq_some (Divisors.ofWord htime),
          difference?_eq_some (UInt32.le_of_lt hfade.1)]
        rfl
      · rfl

theorem rawMagnitude?_eq {e : Effect V} (he : e.kind.check = .ok ()) (time : UInt32) :
    e.rawMagnitude? (W := W) time = some (e.rawMagnitude (W := W) time) := by
  unfold rawMagnitude? rawMagnitude
  cases hkind : e.kind with
  | constant m =>
    dsimp only
    split
    · exact e.enveloped?_eq time m
    · rw [enveloped?_eq]
      rfl
  | periodic waveform amplitude offset phase period =>
    rw [hkind] at he
    dsimp only
    rw [enveloped?_eq, Option.bind_eq_bind, Option.bind_some,
      phaseAt?_eq time (EffectKind.period_ne_zero he), Option.bind_some, Waveform.value?_eq]
    rfl

/-- An effect that has passed its checks can be evaluated at every time. -/
theorem Sound.magnitude?_eq {e : Effect V} (he : e.Sound) (time : UInt32) :
    e.magnitude? (W := W) time = some (e.magnitude (W := W) time) := by
  have hperiod : e.samplePeriod ≠ 0 := by
    rintro hzero
    have hone := he.samplePeriod
    rw [hzero] at hone
    exact absurd hone (by decide)
  have hbeyond : time % e.samplePeriod ≤ time := by
    rw [UInt32.le_iff_toNat_le, UInt32.toNat_mod]
    exact Nat.mod_le ..
  unfold magnitude? magnitude
  split
  · rfl
  · rw [remainder?_eq_some hperiod, Option.bind_eq_bind, Option.bind_some,
      difference?_eq_some hbeyond, Option.bind_eq_bind, Option.bind_some,
      rawMagnitude?_eq he.kind, Option.bind_some, quotient?_eq_some (Divisors.ofWord (by decide))]
    rfl

end Effect

/-! ## Attack and fade -/

omit [Scalar V] in
theorem Envelope.sum_le_of_fits {v : Envelope V} {duration : UInt32}
    (h : v.fits duration = true) (hfinite : duration ≠ infiniteTime) :
    v.attackTime.toNat + v.fadeTime.toNat ≤ duration.toNat := by
  rw [fits, Bool.or_eq_true, beq_iff_eq, decide_eq_true_eq] at h
  exact h.resolve_left hfinite

omit [Scalar V] in
theorem Envelope.attackTime_le_fadeStart {v : Envelope V} {duration : UInt32}
    (h : v.attackTime.toNat + v.fadeTime.toNat ≤ duration.toNat) :
    v.attackTime ≤ Effect.fadeStart duration v := by
  have hfade : v.fadeTime ≤ duration := UInt32.le_iff_toNat_le.mpr (by omega)
  rw [Effect.fadeStart, if_pos hfade, UInt32.le_iff_toNat_le, UInt32.toNat_sub_of_le _ _ hfade]
  omega

/-! ## Setters in any order -/

namespace Effect

def attemptAll (e : Effect V) (changes : List (EffectChange V)) : Effect V :=
  changes.foldl (fun e c => (e.change c).1) e

theorem change_cases (e : Effect V) (c : EffectChange V) :
    (∃ err, e.change c = (e, .error err)) ∨
      ∃ e', e.change c = (e', .ok ()) ∧ e.Accepted c e' := by
  have hanswers := e.answers_change c
  generalize e.change c = r at hanswers
  cases hanswers with
  | rejects err => exact .inl ⟨err, rfl⟩
  | @accepts e' h => exact .inr ⟨e', rfl, h⟩

/-- What accepted changes preserve, every run of attempts preserves. -/
theorem attemptAll_induction {motive : Effect V → Prop}
    (step : ∀ {e e' : Effect V} {c : EffectChange V}, motive e → e.Accepted c e' → motive e')
    {e : Effect V} (he : motive e) (changes : List (EffectChange V)) :
    motive (e.attemptAll changes) := by
  induction changes generalizing e with
  | nil => exact he
  | cons c changes ih =>
    apply ih
    show motive (e.change c).1
    rcases e.change_cases c with ⟨err, h⟩ | ⟨e', h, haccepted⟩
    · rwa [h]
    · rw [h]
      exact step he haccepted

variable [Divisors V] [Divisors W]

/-- After any attempts to change a new effect, valid or not: a change is rejected and leaves the
effect as it is, or it is accepted with its checks; the id is the one the effect was created with,
and every parameter is within its bounds; an envelope fits into a finite duration, and its attack is
over when its fade begins; and evaluating the effect comes to a result at every time. -/
theorem attemptAll_sound {id : UInt32} {kind : EffectKind V} {new : Effect V}
    (h : create id kind = .ok new) (changes : List (EffectChange V)) :
    let e := new.attemptAll changes
    (∀ c, (∃ err, e.change c = (e, .error err)) ∨
      ∃ e', e.change c = (e', .ok ()) ∧ e.Accepted c e') ∧
    e.id = id ∧ e.kind.check = .ok () ∧ e.gain ≤ gainMax ∧ 1 ≤ e.samplePeriod ∧
    (∀ v, e.envelope = some v →
      within zero magnitudeMax v.attackLevel = true ∧
      within zero magnitudeMax v.fadeLevel = true ∧
      ∀ duration, e.duration = some duration → duration ≠ infiniteTime →
        v.attackTime.toNat + v.fadeTime.toNat ≤ duration.toNat ∧
        ∀ time, ¬(time < v.attackTime ∧ fadeStart duration v < time ∧ 0 < v.fadeTime)) ∧
    ∀ time, e.magnitude? (W := W) time = some (e.magnitude (W := W) time) := by
  intro e
  have hsound : e.Sound :=
    attemptAll_induction (fun he ha => ha.sound he) (sound_create h) changes
  have hid : e.id = id := by
    refine attemptAll_induction (motive := fun f => f.id = id) ?_ ?_ changes
    · exact fun hf ha => ha.keeps.1.trans hf
    · rw [(create_eq_ok h).2]
  refine ⟨e.change_cases, hid, hsound.kind, hsound.gain, hsound.samplePeriod, ?_,
    hsound.magnitude?_eq⟩
  intro v hv
  obtain ⟨hattack, hfade, hfits⟩ := hsound.envelope v hv
  refine ⟨hattack, hfade, ?_⟩
  intro duration hduration hfinite
  rw [hduration, Option.all_some] at hfits
  have hsum := Envelope.sum_le_of_fits hfits hfinite
  refine ⟨hsum, ?_⟩
  rintro time ⟨hbefore, hafter, -⟩
  have hstart := Envelope.attackTime_le_fadeStart hsum
  exact UInt32.lt_irrefl _ (UInt32.lt_of_le_of_lt hstart (UInt32.lt_trans hafter hbefore))

/-- A wave, with changes that are rejected between those that are accepted: envelopes of more than
32 bits and of more than the duration, a duration of less than the envelope, a gain and a level. -/
theorem attemptAll_sound_crowded :
    let kind : EffectKind Float32 := .periodic .triangle 6000 0 9000 40
    let new : Effect Float32 :=
      { id := 7, kind, duration := none, samplePeriod := 1, gain := gainMax, envelope := none,
        direction := .default, axes := [] }
    let v : Envelope Float32 := ⟨100, 0, 200, 500⟩
    let changes : List (EffectChange Float32) :=
      [.duration 300, .envelope (some ⟨4294967295, 0, 2, 500⟩), .envelope (some v),
        .envelope (some ⟨200, 0, 200, 500⟩), .duration 299, .gain 10001, .kind (.constant 10001),
        .samplePeriod 0]
    let e := new.attemptAll changes
    create 7 kind = .ok new ∧ e.envelope = some v ∧ e.duration = some 300 ∧ e.id = 7 ∧
      e.gain ≤ gainMax ∧ 1 ≤ e.samplePeriod ∧
      (∀ time, ¬(time < v.attackTime ∧ fadeStart 300 v < time ∧ 0 < v.fadeTime)) ∧
      ∀ time, e.magnitude? (W := Float) time = some (e.magnitude (W := Float) time) := by
  intro kind new v changes e
  have hcreate : create 7 kind = .ok new := rfl
  have henvelope : e.envelope = some v := by decide +kernel
  have hduration : e.duration = some 300 := by decide +kernel
  obtain ⟨-, hid, -, hgain, hperiod, hfits, heval⟩ :=
    attemptAll_sound (W := Float) hcreate changes
  have hapart := ((hfits v henvelope).2.2 300 hduration (by decide)).2
  exact ⟨hcreate, henvelope, hduration, hid, hgain, hperiod, hapart, heval⟩

end Effect

end VirtualPad
