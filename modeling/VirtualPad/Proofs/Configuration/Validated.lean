import VirtualPad.Proofs.Configuration.Templates
import VirtualPad.Proofs.Controller.Settings
import VirtualPad.Proofs.Registry.Run

/-!
# Valid configurations

What the check of a configuration demands and what its use needs are written apart. The bounds of
the properties stand in the check and again in the setters of a controller. The players' mappers
must be registered names, but are looked up where the empty name stands for the default. Players are
numbered from one in a configuration and counted from zero when their mapper is asked for, which
leaves no number for the last of them. All of this fits together: a valid configuration serves every
player and every controller (`validated_usable`).
-/

namespace VirtualPad

/-! ## Properties -/

theorem takeSteps_cons_eq_ok_iff {step : ControllerStep} {steps : List ControllerStep}
    {k k' : Controller} :
    takeSteps (step :: steps) k = (k', .ok ()) ↔
      ∃ middle, step k = (middle, .ok ()) ∧ takeSteps steps middle = (k', .ok ()) := by
  rw [takeSteps]
  obtain ⟨middle, result⟩ := step k
  cases result with
  | error e => simp
  | ok u => simp

theorem takeSteps_set_eq_ok_iff (settings : List Setting) {rest : List ControllerStep}
    {k k' : Controller} :
    takeSteps (settings.map (fun s k => k.set .every s) ++ rest) k = (k', .ok ()) ↔
      (∀ s ∈ settings, s.refusal? = none) ∧
        takeSteps rest (settings.foldl (fun k s => k.updateProperties .every s.update) k) =
          (k', .ok ()) := by
  induction settings generalizing k with
  | nil => simp
  | cons s settings ih =>
    rw [List.map_cons, List.cons_append, takeSteps_cons_eq_ok_iff, List.forall_mem_cons, and_assoc]
    constructor
    · rintro ⟨middle, hset, hrest⟩
      obtain ⟨hs, rfl⟩ := Controller.set_eq_ok_iff.mp hset
      exact ⟨hs, ih.mp hrest⟩
    · rintro ⟨hs, hrest⟩
      exact ⟨_, Controller.set_eq_ok_iff.mpr ⟨hs, rfl⟩, ih.mpr hrest⟩

namespace ControllerProperties

/-- What every axis has after a controller was given the properties. -/
def forAxis (p : ControllerProperties) : AxisProperties :=
  ⟨p.deadzone, p.saturation, p.rangeMin, p.rangeMax, p.enabled⟩

def settings (p : ControllerProperties) : List Setting :=
  [.deadzone p.deadzone, .saturation p.saturation, .range p.rangeMin p.rangeMax,
    .enabled p.enabled]

structure InBounds (p : ControllerProperties) : Prop where
  axes : p.forAxis.InBounds
  gain_le : p.gain ≤ 10000

variable {p : ControllerProperties}

theorem check_eq_ok_iff : p.check = .ok () ↔ p.InBounds := by
  unfold check
  split_ifs with hdeadzone hsaturation hrange hgain
  · exact ⟨nofun, fun h => absurd hdeadzone (UInt32.not_lt.mpr h.axes.deadzone_le)⟩
  · exact ⟨nofun, fun h => absurd hsaturation (UInt32.not_lt.mpr h.axes.saturation_le)⟩
  · exact ⟨nofun, fun h => absurd hrange (Int32.not_le.mpr h.axes.range_lt)⟩
  · exact ⟨nofun, fun h => absurd hgain (UInt32.not_lt.mpr h.gain_le)⟩
  · have haxes : p.forAxis.InBounds :=
      ⟨UInt32.not_lt.mp hdeadzone, UInt32.not_lt.mp hsaturation, Int32.not_le.mp hrange⟩
    exact ⟨fun _ => ⟨haxes, UInt32.not_lt.mp hgain⟩, fun _ => rfl⟩

theorem refusal?_settings_iff :
    (∀ s ∈ p.settings, s.refusal? = none) ↔ p.forAxis.InBounds := by
  simp only [settings, List.forall_mem_cons, Setting.refusal?_deadzone, Setting.refusal?_saturation,
    Setting.refusal?_range, Setting.refusal?_enabled]
  constructor
  · rintro ⟨hdeadzone, hsaturation, hrange, -⟩
    exact ⟨hdeadzone, hsaturation, hrange⟩
  · rintro ⟨hdeadzone, hsaturation, hrange⟩
    exact ⟨hdeadzone, hsaturation, hrange, trivial, List.forall_mem_nil _⟩

theorem foldl_settings (k : Controller) :
    p.settings.foldl (fun k s => k.updateProperties .every s.update) k =
      k.withProperties (.const p.forAxis) :=
  rfl

theorem applyTo_eq_ok_iff {k k' : Controller} :
    p.applyTo k = (k', .ok ()) ↔
      p.InBounds ∧ { k.withProperties (.const p.forAxis) with gain := p.gain } = k' := by
  have hsteps : p.applyTo k =
      takeSteps (p.settings.map (fun s k => k.set .every s) ++ [(·.setGain p.gain)]) k := rfl
  rw [hsteps, takeSteps_set_eq_ok_iff, foldl_settings, refusal?_settings_iff,
    takeSteps_cons_eq_ok_iff]
  constructor
  · rintro ⟨haxes, d, hset, hd⟩
    obtain rfl : d = k' := congrArg Prod.fst hd
    obtain ⟨hgain, hd⟩ := Controller.setGain_eq_ok_iff.mp hset
    exact ⟨⟨haxes, hgain⟩, hd⟩
  · rintro ⟨⟨haxes, hgain⟩, hk⟩
    exact ⟨haxes, k', Controller.setGain_eq_ok_iff.mpr ⟨hgain, hk⟩, rfl⟩

theorem applyTo_isOk_iff {k : Controller} : (p.applyTo k).2 = .ok () ↔ p.InBounds := by
  constructor
  · intro h
    exact (applyTo_eq_ok_iff.mp (Prod.ext rfl h)).1
  · intro h
    rw [applyTo_eq_ok_iff.mpr ⟨h, rfl⟩]

end ControllerProperties

namespace Configuration

variable {c : Configuration} {r : Registry}

/-! ## Mappers -/

theorem checkPlayerNumbers_eq_ok_iff {numbers : List UInt8} :
    checkPlayerNumbers numbers = .ok () ↔ ∀ n ∈ numbers, n ≠ 0 ∧ n ≤ gamepadCount := by
  induction numbers with
  | nil => simp [checkPlayerNumbers]
  | cons n numbers ih =>
    rw [checkPlayerNumbers, List.forall_mem_cons, ← ih]
    by_cases h : n = 0 ∨ gamepadCount < n
    · rw [if_pos h]
      refine iff_of_false nofun fun hall => ?_
      rcases h with rfl | hlt
      · exact hall.1.1 rfl
      · exact UInt8.not_lt.mpr hall.1.2 hlt
    · rw [if_neg h]
      rw [not_or, UInt8.not_lt] at h
      simp [h]

theorem checkPlayers_eq_ok_iff {entries : List (UInt8 × String)} :
    checkPlayers r entries = .ok () ↔ ∀ entry ∈ entries, r.contains entry.2 = true := by
  induction entries with
  | nil => simp [checkPlayers]
  | cons entry entries ih =>
    rw [checkPlayers, List.forall_mem_cons, ← ih]
    split
    · rename_i h
      simp [h]
    · rename_i h
      simp [h]

theorem consistent_of_buildRegistry (h : c.buildRegistry = .ok r) : r.Consistent := by
  obtain ⟨made, hmade, hdefault, -⟩ := buildRegistry_eq_ok h
  have hconsistent : made.Consistent := by
    refine foldlM_invariant (motive := Registry.Consistent) ?_ Registry.consistent_builtIn hmade
    intro m _ r r' hr hm
    obtain ⟨-, x, -, hx, -⟩ := CustomMapper.register_eq_ok hm
    exact hr.register hx
  exact hconsistent.setDefault hdefault

theorem get?_default (h : c.buildRegistry = .ok r) :
    r.mappers.get? c.mapper.default = some r.default := by
  obtain ⟨made, -, hdefault, -⟩ := buildRegistry_eq_ok h
  obtain ⟨x, hx, rfl⟩ := Registry.setDefault_eq_ok hdefault
  exact hx

theorem exists_of_player (h : c.buildRegistry = .ok r) {n : UInt8} {name : String}
    (hn : c.mapper.players.get? n = some name) : ∃ x, r.mappers.get? name = some x := by
  obtain ⟨made, -, -, hplayers⟩ := buildRegistry_eq_ok h
  rw [← Registry.contains_eq_true_iff]
  exact checkPlayers_eq_ok_iff.mp hplayers (n, name) (OrderedMap.get?_eq_some_iff.mp hn)

/-! ## Players -/

/-- The name of the mapper of the player with a number, where numbers start from one. -/
def mapperName (c : Configuration) (number : Nat) : String :=
  match c.mapper.players.entries.find? fun entry => entry.1.toNat = number with
  | some entry => entry.2
  | none => c.mapper.default

theorem mapperName_toNat (c : Configuration) (n : UInt8) :
    c.mapperName n.toNat = (c.mapper.players.get? n).getD c.mapper.default := by
  rw [mapperName, OrderedMap.get?]
  induction c.mapper.players.entries with
  | nil => rfl
  | cons entry entries ih =>
    rw [List.find?_cons, OrderedMap.find?]
    by_cases h : entry.1 = n
    · simp [h]
    · have hne : ¬ entry.1.toNat = n.toNat := fun he => h (UInt8.toNat_inj.mp he)
      simpa [h, hne] using ih

theorem get?_eq_none_of_lt (numbers : checkPlayerNumbers c.mapper.players.keys = .ok ()) {n : UInt8}
    (hn : gamepadCount < n) : c.mapper.players.get? n = none := by
  cases hget : c.mapper.players.get? n with
  | none => rfl
  | some name =>
    have hkey : n ∈ c.mapper.players.keys :=
      List.mem_map.mpr ⟨_, OrderedMap.get?_eq_some_iff.mp hget, rfl⟩
    exact absurd hn (UInt8.not_lt.mpr (checkPlayerNumbers_eq_ok_iff.mp numbers n hkey).2)

/-- There is no number for the player who is counted as the last, so they have no mapper of their
own, and neither has the number that is asked for in their place. -/
theorem mapperName_succ (numbers : checkPlayerNumbers c.mapper.players.keys = .ok ()) (p : UInt8) :
    c.mapperName (p.toNat + 1) =
      (c.mapper.players.get? (if p = 255 then p else p + 1)).getD c.mapper.default := by
  split
  · rename_i hp
    subst hp
    have hnone : (c.mapper.players.entries.find? fun entry => entry.1.toNat = 256) = none :=
      List.find?_eq_none.mpr fun entry _ => by simpa using Nat.ne_of_lt entry.1.toNat_lt
    -- 255 is asked for in place of 256, and no player of a valid configuration has it either.
    rw [get?_eq_none_of_lt numbers (by decide)]
    show c.mapperName 256 = _
    rw [mapperName, hnone]
    rfl
  · rename_i hp
    have hlt : p.toNat + 1 < 256 := by
      have hne : p.toNat ≠ 255 := fun he => hp (UInt8.toNat_inj.mp he)
      have := p.toNat_lt
      omega
    have hsucc : (p + 1).toNat = p.toNat + 1 := by
      rw [UInt8.toNat_add]
      exact Nat.mod_eq_of_lt hlt
    rw [← hsucc, mapperName_toNat]

theorem mapperFor?_eq (h : c.buildRegistry = .ok r)
    (numbers : checkPlayerNumbers c.mapper.players.keys = .ok ()) (p : UInt8) :
    ∃ x, c.mapperFor? r p = some x ∧ r.mappers.get? (c.mapperName (p.toNat + 1)) = some x := by
  rw [mapperName_succ numbers, mapperFor?]
  cases hn : c.mapper.players.get? (if p = 255 then p else p + 1) with
  | none => exact ⟨r.default, rfl, get?_default h⟩
  | some name =>
    obtain ⟨x, hx⟩ := exists_of_player h hn
    exact ⟨x, (consistent_of_buildRegistry h).get?_eq_some hx, hx⟩

/-- A valid configuration can be used: there is a registry, each player has the mapper that is
registered under the name set for them or under the default name, and every controller can be given
the properties, which all its axes and its gain have from then on. Properties that are not in order
cannot be given to any controller. -/
theorem validated_usable (c : Configuration) :
    (c.validate = .ok () →
      (∃ r, c.buildRegistry = .ok r ∧ ∀ p : UInt8, ∃ x, c.mapperFor? r p = some x ∧
        r.mappers.get? (c.mapperName (p.toNat + 1)) = some x) ∧
      ∀ k, ∃ k', c.properties.applyTo k = (k', .ok ()) ∧
        (∀ a, k'.properties.get a = c.properties.forAxis) ∧ k'.gain = c.properties.gain) ∧
    ∀ (p : ControllerProperties) (k : Controller), (p.applyTo k).2 = .ok () ↔ p.check = .ok () := by
  constructor
  · intro hvalid
    obtain ⟨hproperties, hnumbers, r, hr⟩ := validate_eq_ok hvalid
    refine ⟨⟨r, hr, mapperFor?_eq hr hnumbers⟩, fun k => ?_⟩
    have hbounds := ControllerProperties.check_eq_ok_iff.mp hproperties
    refine ⟨_, ControllerProperties.applyTo_eq_ok_iff.mpr ⟨hbounds, rfl⟩, fun a => ?_, rfl⟩
    exact PerAxis.get_const _ a
  · intro p k
    rw [ControllerProperties.applyTo_isOk_iff, ControllerProperties.check_eq_ok_iff]

/-- Two players have mappers of their own, one of them a custom one, and the default is custom. -/
def shared : Configuration where
  mapper := ⟨"Arcade", .ofList [(2, "Racing"), (4, "XInputNative")]⟩
  customMappers := [arcade, silent, racing]
  properties := { deadzone := 1500, rangeMin := -1000, rangeMax := 1000, gain := 5000 }

theorem validated_usable_shared :
    (∃ r, shared.buildRegistry = .ok r ∧
      ∀ q ∈ ([(0, "Arcade"), (1, "Racing"), (3, "XInputNative"), (255, "Arcade")] :
        List (UInt8 × String)),
        ∃ x, shared.mapperFor? r q.1 = some x ∧ r.mappers.get? q.2 = some x) ∧
    (∃ k', shared.properties.applyTo (.create 1 0 Layouts.null false) = (k', .ok ()) ∧
      k'.properties.get .rotZ = ⟨1500, 10000, -1000, 1000, true⟩ ∧ k'.gain = 5000) ∧
    ∀ k, (({ rangeMin := 5, rangeMax := 5 } : ControllerProperties).applyTo k).2 ≠ .ok () := by
  have hvalid : shared.validate = .ok () := by decide +kernel
  obtain ⟨hserves, hbounds⟩ := validated_usable shared
  obtain ⟨⟨r, hr, hplayer⟩, hgiven⟩ := hserves hvalid
  refine ⟨⟨r, hr, fun q hq => ?_⟩, ?_, fun k => ?_⟩
  · have hname : q.2 = shared.mapperName (q.1.toNat + 1) := by
      revert q
      decide +kernel
    rw [hname]
    exact hplayer q.1
  · obtain ⟨k', hk', hproperties, hgain⟩ := hgiven (.create 1 0 Layouts.null false)
    exact ⟨k', hk', hproperties .rotZ, hgain⟩
  · rw [ne_eq, hbounds]
    decide

end Configuration

end VirtualPad
