import Mathlib.Data.List.Basic
import VirtualPad.Proofs.Controller.Run

/-!
# Settings

What a program can set for an axis is a `Setting`, and every setter checks its argument before it
touches the controller. A setting outside its bounds is refused with an error that names it, and any
other one is put in place (`set_eq`). Only setters write properties and the gain, so these are
within their bounds in every state that a run can reach.

The presented state is made anew after each change, from the raw state and all properties. So it
does not matter in how many steps and in which order the axes were set (`run_operation_only`).
-/

namespace VirtualPad

variable {V : Type}

inductive Setting where
  | deadzone (amount : UInt32)
  | saturation (amount : UInt32)
  | range (low high : Int32)
  | enabled (value : Bool)
  deriving DecidableEq, Repr

namespace Setting

/-- The error that a setting is refused with, if it is out of bounds. -/
def refusal? : Setting → Option PropertyError
  | .deadzone amount => if 10000 < amount then some (.deadzone amount) else none
  | .saturation amount => if 10000 < amount then some (.saturation amount) else none
  | .range low high => if high ≤ low then some (.range low high) else none
  | .enabled _ => none

def update : Setting → AxisProperties → AxisProperties
  | .deadzone amount => ({ · with deadzone := amount })
  | .saturation amount => ({ · with saturation := amount })
  | .range low high => ({ · with rangeMin := low, rangeMax := high })
  | .enabled value => ({ · with enabled := value })

def operation : Setting → AxisScope → Operation V
  | .deadzone amount, scope => .setDeadzone scope amount
  | .saturation amount, scope => .setSaturation scope amount
  | .range low high, scope => .setRange scope low high
  | .enabled value, scope => .setEnabled scope value

@[simp] theorem refusal?_deadzone {amount : UInt32} :
    (deadzone amount).refusal? = none ↔ amount ≤ 10000 := by
  simp [refusal?]

@[simp] theorem refusal?_saturation {amount : UInt32} :
    (saturation amount).refusal? = none ↔ amount ≤ 10000 := by
  simp [refusal?]

@[simp] theorem refusal?_range {low high : Int32} :
    (range low high).refusal? = none ↔ low < high := by
  simp [refusal?]

@[simp] theorem refusal?_enabled {value : Bool} : (enabled value).refusal? = none := rfl

theorem update_update (s : Setting) (p : AxisProperties) : s.update (s.update p) = s.update p := by
  cases s <;> rfl

end Setting

/-- Properties that an axis can have. -/
structure AxisProperties.InBounds (p : AxisProperties) : Prop where
  deadzone_le : p.deadzone ≤ 10000
  saturation_le : p.saturation ≤ 10000
  range_lt : p.rangeMin < p.rangeMax

theorem Setting.inBounds_update {s : Setting} (hs : s.refusal? = none) {p : AxisProperties}
    (h : p.InBounds) : (s.update p).InBounds := by
  obtain ⟨hdeadzone, hsaturation, hrange⟩ := h
  cases s with
  | deadzone amount => exact ⟨refusal?_deadzone.mp hs, hsaturation, hrange⟩
  | saturation amount => exact ⟨hdeadzone, refusal?_saturation.mp hs, hrange⟩
  | range low high => exact ⟨hdeadzone, hsaturation, refusal?_range.mp hs⟩
  | enabled value => exact ⟨hdeadzone, hsaturation, hrange⟩

namespace Controller

/-! ## One setter -/

def set (c : Controller) (scope : AxisScope) : Setting → Controller × Except PropertyError Unit
  | .deadzone amount => c.setDeadzone scope amount
  | .saturation amount => c.setSaturation scope amount
  | .range low high => c.setRange scope low high
  | .enabled value => (c.setEnabled scope value, .ok ())

/-- A setter says when its argument is in order, and `refusal?` says when it is not. -/
theorem checked_eq {valid refused : Prop} [Decidable valid] [Decidable refused]
    (h : ¬ valid ↔ refused) (c d : Controller) (e : PropertyError) :
    (if valid then (d, .ok ()) else (c, .error e) : Controller × Except PropertyError Unit) =
      match if refused then some e else none with
      | some e => (c, .error e)
      | none => (d, .ok ()) := by
  by_cases hvalid : valid
  · have hrefused : ¬ refused := fun hr => h.mpr hr hvalid
    rw [if_pos hvalid, if_neg hrefused]
  · rw [if_neg hvalid, if_pos (h.mp hvalid)]

theorem set_eq (c : Controller) (scope : AxisScope) (s : Setting) :
    c.set scope s =
      match s.refusal? with
      | some e => (c, .error e)
      | none => (c.updateProperties scope s.update, .ok ()) := by
  cases s with
  | deadzone amount => exact checked_eq UInt32.not_le ..
  | saturation amount => exact checked_eq UInt32.not_le ..
  | range low high => exact checked_eq Int32.not_lt ..
  | enabled value => rfl

theorem set_eq_error_iff (c : Controller) (scope : AxisScope) (s : Setting) (e : PropertyError) :
    (c.set scope s).2 = .error e ↔ s.refusal? = some e := by
  rw [set_eq]
  cases s.refusal? with
  | some e' => simp
  | none => simp

theorem set_eq_ok_iff {c d : Controller} {scope : AxisScope} {s : Setting} :
    c.set scope s = (d, .ok ()) ↔ s.refusal? = none ∧ c.updateProperties scope s.update = d := by
  rw [set_eq]
  cases s.refusal? with
  | some e => simp
  | none => simp

theorem setGain_cases (c : Controller) (gain : UInt32) :
    (10000 < gain ∧ c.setGain gain = (c, .error (.gain gain))) ∨
      (gain ≤ 10000 ∧ c.setGain gain = ({ c with gain }, .ok ())) := by
  by_cases h : gain ≤ controllerGainMax
  · exact .inr ⟨h, if_pos h⟩
  · exact .inl ⟨UInt32.not_le.mp h, if_neg h⟩

theorem setGain_eq_error_iff (c : Controller) (gain : UInt32) (e : PropertyError) :
    (c.setGain gain).2 = .error e ↔ 10000 < gain ∧ e = .gain gain := by
  rcases c.setGain_cases gain with ⟨hlt, h⟩ | ⟨hle, h⟩
  · rw [h]
    simp [hlt, eq_comm]
  · rw [h]
    simp [UInt32.not_lt.mpr hle]

theorem setGain_eq_ok_iff {c d : Controller} {gain : UInt32} :
    c.setGain gain = (d, .ok ()) ↔ gain ≤ 10000 ∧ { c with gain } = d := by
  rcases c.setGain_cases gain with ⟨hlt, h⟩ | ⟨hle, h⟩
  · rw [h]
    simp [UInt32.not_le.mpr hlt]
  · rw [h]
    simp [hle]

theorem perform_operation (c : Controller) (scope : AxisScope) (s : Setting) :
    c.perform (s.operation scope : Operation V) = (c.set scope s).1 := by
  cases s <;> rfl

theorem perform_operation_of_refusal (c : Controller) (scope : AxisScope) {s : Setting}
    {e : PropertyError} (h : s.refusal? = some e) :
    c.perform (s.operation scope : Operation V) = c := by
  rw [perform_operation, set_eq, h]

theorem perform_operation_of_none (c : Controller) (scope : AxisScope) {s : Setting}
    (h : s.refusal? = none) :
    c.perform (s.operation scope : Operation V) = c.updateProperties scope s.update := by
  rw [perform_operation, set_eq, h]

/-! ## Bounds -/

/-- All properties and the gain are within their bounds. -/
structure InBounds (c : Controller) : Prop where
  axes (a : Axis) : (c.properties.get a).InBounds
  gain_le : c.gain ≤ 10000

theorem inBounds_create (id : UInt64) (player : UInt8) (mapper : Mapper) (canRegister : Bool) :
    (create id player mapper canRegister).InBounds where
  axes a := by
    rw [create, PerAxis.get_const]
    exact ⟨by decide, by decide, by decide⟩
  gain_le := by
    show controllerGainMax ≤ 10000
    decide

theorem InBounds.updateProperties {c : Controller} (h : c.InBounds) (scope : AxisScope)
    {s : Setting} (hs : s.refusal? = none) : (c.updateProperties scope s.update).InBounds where
  axes a := by
    rw [Controller.updateProperties, PerAxis.get_ofFn]
    split
    · exact Setting.inBounds_update hs (h.axes a)
    · exact h.axes a
  gain_le := h.gain_le

theorem InBounds.setting {c : Controller} (h : c.InBounds) (scope : AxisScope) (s : Setting) :
    (c.perform (s.operation scope : Operation V)).InBounds := by
  cases hs : s.refusal? with
  | some e =>
    rw [perform_operation_of_refusal c scope hs]
    exact h
  | none =>
    rw [perform_operation_of_none c scope hs]
    exact h.updateProperties scope hs

theorem InBounds.setGain {c : Controller} (h : c.InBounds) (gain : UInt32) :
    (c.setGain gain).1.InBounds := by
  rcases c.setGain_cases gain with ⟨-, hgain⟩ | ⟨hle, hgain⟩
  · rw [hgain]
    exact h
  · rw [hgain]
    exact ⟨h.axes, hle⟩

theorem InBounds.of_eq {c d : Controller} (h : c.InBounds) {raw state : VirtualState}
    {events : EventBuffer} {muted : List Element} {notifier : Option Notifier} {handle : Option DeviceHandle}
    (heq : d = { c with raw, state, events, muted, notifier, handle }) : d.InBounds := by
  subst heq
  exact ⟨h.axes, h.gain_le⟩

theorem InBounds.refreshVirtual {c : Controller} (h : c.InBounds) (next now : UInt32)
    (raw : VirtualState) : (c.refreshVirtual next now raw).controller.InBounds := by
  rw [refreshVirtual_eq]
  exact h.of_eq rfl

theorem InBounds.perform {c : Controller} (h : c.InBounds) (op : Operation V) :
    (c.perform op).InBounds := by
  cases op with
  | refresh next now pad => exact h.refreshVirtual next now _
  | refreshVirtual next now raw => exact h.refreshVirtual next now raw
  | setDeadzone scope amount => exact h.setting (V := V) scope (.deadzone amount)
  | setSaturation scope amount => exact h.setting (V := V) scope (.saturation amount)
  | setRange scope low high => exact h.setting (V := V) scope (.range low high)
  | setEnabled scope value => exact h.setting (V := V) scope (.enabled value)
  | setGain gain => exact h.setGain gain
  | read limit peek =>
    obtain ⟨events, heq⟩ := c.readEvents_eq limit peek
    exact h.of_eq heq
  | mute e =>
    obtain ⟨muted, heq⟩ := c.mute_eq e
    exact h.of_eq heq
  | register hub =>
    obtain ⟨handle, heq⟩ := c.register_eq hub
    exact h.of_eq heq
  | unregister hub =>
    obtain ⟨handle, heq⟩ := c.unregister_eq hub
    exact h.of_eq heq
  | _ => exact h.of_eq rfl

theorem InBounds.run {c : Controller} (h : c.InBounds) (ops : List (Operation V)) :
    (c.run ops).InBounds := by
  induction ops generalizing c with
  | nil => exact h
  | cons op ops ih => exact ih (h.perform op)

/-! ## All axes at once -/

/-- The controller with other properties, through which it presents its raw state. -/
def withProperties (c : Controller) (ps : PerAxis AxisProperties) : Controller :=
  { c with properties := ps, state := c.raw.present c.capabilities ps }

/-- Properties after an update of the chosen axes. -/
def updated (ps : PerAxis AxisProperties) (chosen : Axis → Bool)
    (update : AxisProperties → AxisProperties) : PerAxis AxisProperties :=
  .ofFn fun a => if chosen a then update (ps.get a) else ps.get a

theorem updateProperties_eq (c : Controller) (scope : AxisScope)
    (update : AxisProperties → AxisProperties) :
    c.updateProperties scope update = c.withProperties (updated c.properties scope.includes update) :=
  rfl

theorem updated_updated (ps : PerAxis AxisProperties) (chosen more : Axis → Bool) (s : Setting) :
    updated (updated ps chosen s.update) more s.update =
      updated ps (fun a => chosen a || more a) s.update := by
  refine PerAxis.ext_get fun a => ?_
  simp only [updated, PerAxis.get_ofFn]
  by_cases hmore : more a = true
  · by_cases hchosen : chosen a = true
    · simp [hmore, hchosen, s.update_update]
    · simp [hmore, hchosen]
  · simp [hmore]

theorem foldl_updateProperties (c : Controller) (ps : PerAxis AxisProperties) (s : Setting)
    (order : List Axis) :
    order.foldl (fun c a => c.updateProperties (.only a) s.update) (c.withProperties ps) =
      c.withProperties (updated ps (fun a => a ∈ order) s.update) := by
  induction order generalizing ps with
  | nil =>
    have hnone : updated ps (fun a => a ∈ ([] : List Axis)) s.update = ps :=
      PerAxis.ext_get fun a => by simp [updated]
    rw [hnone]
    rfl
  | cons a order ih =>
    have hfirst : (c.withProperties ps).updateProperties (.only a) s.update =
        c.withProperties (updated ps (AxisScope.only a).includes s.update) := rfl
    rw [List.foldl_cons, hfirst, ih, updated_updated]
    congr 2
    funext b
    simp [AxisScope.includes, eq_comm]

theorem run_operation_only (c : Controller) (s : Setting) {order : List Axis}
    (h : ∀ a, a ∈ order) :
    c.run (order.map fun a => (s.operation (.only a) : Operation V)) =
      c.perform (s.operation .every : Operation V) := by
  rw [run, List.foldl_map]
  cases hs : s.refusal? with
  | some e =>
    simp only [perform_operation_of_refusal _ _ hs]
    exact List.foldl_fixed order
  | none =>
    simp only [perform_operation_of_none _ _ hs]
    cases order with
    | nil => cases h .x
    | cons a order =>
      have hall : updated c.properties (fun b => b ∈ a :: order) s.update =
          updated c.properties AxisScope.every.includes s.update := by
        congr 1
        funext b
        exact decide_eq_true (h b)
      rw [updateProperties_eq, ← hall, ← foldl_updateProperties]
      rfl

/-- After any run from a new controller, a setter fails exactly where its argument is out of bounds,
and changes nothing then. So the properties of every axis and the gain are within their bounds.
Setting all axes at once leads to the same controller as setting them one by one, in any order. -/
theorem run_settings (id : UInt64) (player : UInt8) (mapper : Mapper) (canRegister : Bool)
    (ops : List (Operation V)) :
    let c := (Controller.create id player mapper canRegister).run ops
    (∀ (scope : AxisScope) (s : Setting),
      (∀ e, (c.set scope s).2 = .error e ↔ s.refusal? = some e) ∧
      ∀ e, (c.set scope s).2 = .error e →
        (c.set scope s).1 = c ∧ c.perform (s.operation scope : Operation V) = c) ∧
    (∀ gain, (∀ e, (c.setGain gain).2 = .error e ↔ 10000 < gain ∧ e = .gain gain) ∧
      ∀ e, (c.setGain gain).2 = .error e →
        (c.setGain gain).1 = c ∧ c.perform (.setGain gain : Operation V) = c) ∧
    (∀ a, (c.properties.get a).deadzone ≤ 10000 ∧ (c.properties.get a).saturation ≤ 10000 ∧
      (c.properties.get a).rangeMin < (c.properties.get a).rangeMax) ∧
    c.gain ≤ 10000 ∧
    ∀ (s : Setting) (order : List Axis), (∀ a, a ∈ order) →
      c.run (order.map fun a => (s.operation (.only a) : Operation V)) =
        c.perform (s.operation .every : Operation V) := by
  intro c
  have hc : c.InBounds := (inBounds_create id player mapper canRegister).run ops
  refine ⟨fun scope s => ⟨c.set_eq_error_iff scope s, fun e he => ?_⟩,
    fun gain => ⟨c.setGain_eq_error_iff gain, fun e he => ?_⟩, fun a => ?_, hc.gain_le, ?_⟩
  · have hset := c.perform_operation_of_refusal (V := V) scope ((c.set_eq_error_iff scope s e).mp he)
    exact ⟨(c.perform_operation scope s).symm.trans hset, hset⟩
  · rcases c.setGain_cases gain with ⟨-, h⟩ | ⟨-, h⟩
    · rw [perform, h]
      exact ⟨rfl, rfl⟩
    · rw [h] at he
      cases he
  · exact ⟨(hc.axes a).deadzone_le, (hc.axes a).saturation_le, (hc.axes a).range_lt⟩
  · intro s order h
    exact c.run_operation_only s h

/-- A range for all axes, set from the last axis to the first while the stick is held, and a deadzone
and a gain just beyond their bounds. -/
theorem run_settings_reversed :
    let mapper : Mapper := ⟨"", ElementMap.empty.set .stickLeftX (.axis .x .both), .disabled⟩
    let ops : List (Operation Unit) :=
      [.setCapacity 8, .setDeadzone (.only .y) 10000, .setGain 10000,
        .refresh 7 10 { status := .ok, leftX := 20000 }, .setSaturation .every 10001]
    let c := (Controller.create 1 0 mapper false).run ops
    let range : Setting := .range (-100) 100
    c.set .every (.deadzone 10001) = (c, .error (.deadzone 10001)) ∧
    c.perform (.setDeadzone .every 10001 : Operation Unit) = c ∧
    c.perform (.setGain 10001 : Operation Unit) = c ∧
    (c.properties.get .y).deadzone = 10000 ∧ c.state.axis .x = 20000 ∧
    c.run (Axis.all.reverse.map fun a => (range.operation (.only a) : Operation Unit)) =
      c.perform (.setRange .every (-100) 100 : Operation Unit) ∧
    (c.perform (.setRange .every (-100) 100 : Operation Unit)).state.axis .x = 61 := by
  intro mapper ops c range
  obtain ⟨hset, hgain, -, -, horder⟩ := run_settings 1 0 mapper false ops
  have hdeadzone : (c.set .every (.deadzone 10001)).2 = .error (.deadzone 10001) :=
    ((hset .every (.deadzone 10001)).1 _).mpr (by decide)
  have hbeyond : (c.setGain 10001).2 = .error (.gain 10001) :=
    ((hgain 10001).1 _).mpr ⟨by decide, rfl⟩
  obtain ⟨hkept, hperform⟩ := (hset .every (.deadzone 10001)).2 _ hdeadzone
  have hall : ∀ a, a ∈ Axis.all.reverse := fun a => List.mem_reverse.mpr a.mem_all
  refine ⟨Prod.ext hkept hdeadzone, hperform, ((hgain 10001).2 _ hbeyond).2, ?_, ?_,
    horder range Axis.all.reverse hall, ?_⟩
  · decide +kernel
  · decide +kernel
  · decide +kernel

end Controller

end VirtualPad
