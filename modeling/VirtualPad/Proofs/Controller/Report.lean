import VirtualPad.Proofs.Controller.Snapshot

/-!
# What a controller reports

A refresh reports each element that it changed and that is not muted, once and with the new value,
and signals once if anything changed at all (`Reports`). So the events of a stretch of operations
during which nothing is muted, no property changes and the buffer neither drops nor loses an event
lead from the state at its start to the state at its end (`run_reports`).
-/

namespace VirtualPad.Controller

variable {V : Type}

/-- What comes of a refresh after which the controller presents `after`. -/
structure Reports (c : Controller) (next now : UInt32) (after : VirtualState) (r : Refreshed) :
    Prop where
  state : r.controller.state = after
  events : (r.controller.events, r.next) = c.events.callAll next
    ((Element.all.filter fun e => ¬ after.entry e = c.state.entry e ∧ e ∉ c.muted).map fun e =>
      .append (after.entry e) now)
  changed : r.changed = true ↔ after ≠ c.state
  signal : r.signal = if after = c.state then none else c.notifier

/-- An operation during which every change of the presented state reaches the event buffer and every
event stays there: the buffer is enabled, nothing is muted, the properties stay as they are, nothing
is popped, the buffer is not disabled, and no event is lost for lack of room. -/
structure Quiet (c : Controller) (op : Operation V) : Prop where
  enabled : c.events.isEnabled = true
  muted : c.muted = []
  properties : (c.perform op).properties = c.properties
  keeps : ∀ x ∈ c.calls op, x.forgets = false
  fits : c.events.lostAll op.next (c.calls op) = 0

/-- A run of operations of that kind. -/
def Undisturbed (c : Controller) : List (Operation V) → Prop
  | [] => True
  | op :: ops => c.Quiet op ∧ (c.perform op).Undisturbed ops

theorem reports_refreshVirtual (c : Controller) (next now : UInt32) (raw : VirtualState) :
    c.Reports next now (c.present raw) (c.refreshVirtual next now raw) := by
  rw [refreshVirtual_eq]
  refine ⟨rfl, ?_, by simp, rfl⟩
  rw [reported, List.map_map]
  rfl

/-! ## Replaying -/

theorem reported_of_not_muted {c : Controller} (h : c.muted = []) (raw : VirtualState) :
    c.reported raw = c.state.changes (c.present raw) := by
  rw [reported, VirtualState.changes_eq]
  simp [h]

/-- The events that the buffer gains tell how the presented state changed. The properties of a
coherent controller may be set, but only to what they already are. -/
theorem Quiet.replay {c : Controller} {raw : VirtualState} {op : Operation V} (h : c.Quiet op)
    (hc : c.Coherent raw) :
    c.state.replayAll ((c.events.addedAll op.next (c.calls op)).map Event.data) =
      (c.perform op).state := by
  have hop := hc.perform op
  rw [hop.state_eq, present_congr (c.mapper_perform op).1 h.properties]
  cases hr : rawOf? c.mapper c.player op with
  | some raw' =>
    obtain ⟨now, hcalls⟩ := calls_of_refresh hr
    rw [hcalls, EventBuffer.data_addedAll h.enabled, reported_of_not_muted h.muted]
    exact VirtualState.replayAll_changes _ _
  | none =>
    rw [addedAll_of_not_refresh hr]
    exact hc.state_eq

theorem Quiet.toList {c : Controller} {op : Operation V} (h : c.Quiet op) :
    (c.perform op).events.toList = c.events.toList ++ c.events.addedAll op.next (c.calls op) := by
  rw [events_perform]
  exact EventBuffer.toList_callAll h.keeps h.fits

theorem Undisturbed.replay {c : Controller} {raw : VirtualState} {ops : List (Operation V)}
    (h : c.Undisturbed ops) (hc : c.Coherent raw) :
    ∃ gained, (c.run ops).events.toList = c.events.toList ++ gained ∧
      c.state.replayAll (gained.map Event.data) = (c.run ops).state := by
  induction ops generalizing c raw with
  | nil => exact ⟨[], (List.append_nil _).symm, rfl⟩
  | cons op ops ih =>
    obtain ⟨hop, hops⟩ := h
    obtain ⟨gained, htail, hstate⟩ := ih hops (hc.perform op)
    rw [hop.toList, List.append_assoc] at htail
    rw [← hop.replay hc, ← VirtualState.replayAll_append, ← List.map_append] at hstate
    exact ⟨_, htail, hstate⟩

/-- From any state that a run can reach, a refresh reports what it changed, and after an undisturbed
run the events that were gained, replayed on the state at its start, give the state at its end. -/
theorem run_reports (id : UInt64) (player : UInt8) (mapper : Mapper) (canRegister : Bool)
    (ops : List (Operation V)) :
    let c := (Controller.create id player mapper canRegister).run ops
    (∀ next now raw, c.Reports next now (c.present raw) (c.refreshVirtual next now raw)) ∧
    (∀ next now pad, c.Reports next now
      (c.present (mapper.mapState pad player.toUInt32).state) (c.refresh next now pad).1) ∧
    ∀ more : List (Operation V), c.Undisturbed more →
      ∃ gained, (c.run more).events.toList = c.events.toList ++ gained ∧
        c.state.replayAll (gained.map Event.data) = (c.run more).state := by
  intro c
  obtain ⟨hm, hp⟩ := mapper_run (.create id player mapper canRegister) ops
  refine ⟨c.reports_refreshVirtual, ?_, ?_⟩
  · intro next now pad
    rw [refresh, hm, hp]
    exact c.reports_refreshVirtual next now _
  · intro more h
    exact h.replay (coherent_run id player mapper canRegister ops)

/-- An axis moves, which a channel is told about, and then a button is pressed. -/
theorem run_reports_moves :
    let mapper : Mapper := ⟨"", .empty, .disabled⟩
    let ops : List (Operation Unit) :=
      [.setCapacity 4, .setDeadzone .every 5000, .setNotifier (some .channel)]
    let c := (Controller.create 1 0 mapper false).run ops
    let moved : VirtualState := VirtualState.neutral.addAxis .x 30000
    let pressed : VirtualState := moved.mergeButton ⟨2, by decide⟩ true
    let more : List (Operation Unit) :=
      [.refreshVirtual 7 10 moved, .setGain 1, .refreshVirtual 11 20 pressed]
    (c.refreshVirtual 7 10 moved).signal = some .channel ∧
      (c.refreshVirtual 7 10 .neutral).signal = none ∧
      c.Undisturbed more ∧ c.events.toList = [] ∧
      c.state.replayAll ((c.run more).events.toList.map Event.data) = (c.run more).state := by
  intro mapper ops c moved pressed more
  have hmore : c.Undisturbed more := by
    refine ⟨⟨?_, ?_, ?_, ?_, ?_⟩, ⟨?_, ?_, ?_, ?_, ?_⟩, ⟨?_, ?_, ?_, ?_, ?_⟩, trivial⟩
    all_goals decide +kernel
  obtain ⟨hreports, -, hreplay⟩ := run_reports 1 0 mapper false ops
  have hmoves : (c.refreshVirtual 7 10 moved).signal = some .channel :=
    (hreports 7 10 moved).signal.trans (by decide +kernel)
  have hrests : (c.refreshVirtual 7 10 .neutral).signal = none :=
    (hreports 7 10 .neutral).signal.trans (by decide +kernel)
  obtain ⟨gained, hgained, hstate⟩ := hreplay more hmore
  have hnil : c.events.toList = [] := by decide +kernel
  rw [hgained, hnil]
  exact ⟨hmoves, hrests, hmore, rfl, hstate⟩

end VirtualPad.Controller
