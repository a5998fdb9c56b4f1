import VirtualPad.Force.Hub
import VirtualPad.Number.Whole

/-!
# Driving keeps in step with the gamepads

The hub leaves out every write of what it takes a gamepad to do already. That is safe only if what
it remembers is what the gamepad does. A trace keeps every write beside the hub, with the answer of
the gamepad, and `InStep` says that the hub remembers for every player the last output that was
accepted. Registrations, effects and drives that fail or are refused all keep it.
-/

namespace VirtualPad

variable {V W : Type} [Scalar V] [Scalar W] [Precision V W]

/-- An output that was written to a gamepad, and whether the gamepad accepted it. -/
structure MotorWrite where
  player : UInt8
  output : MotorOutput
  accepted : Bool
  deriving DecidableEq, Repr

/-- What a gamepad does after some writes. It starts out at rest, and a write that fails leaves it
as it was. -/
def lastAccepted (writes : List MotorWrite) (player : UInt8) : MotorOutput :=
  ((writes.filter fun w => w.player = player ∧ w.accepted = true).getLast?.map
    MotorWrite.output).getD .idle

/-- A call of the hub. A gamepad answers a write through the `sink` of the drive. -/
inductive HubCall (V : Type) where
  | register (player : UInt8) (controller : UInt64)
  | unregister (player : UInt8) (controller : UInt64)
  /-- Change the effects of a gamepad in any way. -/
  | operate (player : UInt8) (change : Device V → Device V)
  | drive (player : UInt8) (mapper : Mapper) (now gain : UInt32)
    (sink : MotorOutput → Except GamepadError Unit)

/-- The call drives a given gamepad. -/
def HubCall.Drives (player : UInt8) : HubCall V → Prop
  | .drive p _ _ _ _ => p = player
  | _ => False

/-- A hub and every write that it has made. -/
structure HubTrace (V : Type) where
  hub : Hub V
  writes : List MotorWrite

namespace HubTrace

def perform (t : HubTrace V) : HubCall V → HubTrace V
  | .register player controller =>
    match t.hub.register? player controller with
    | none => t
    | some (_, hub) => { t with hub }
  | .unregister player controller => { t with hub := t.hub.unregister player controller }
  | .operate player change =>
    match t.hub.device? player with
    | none => t
    | some d => { t with hub := t.hub.setDevice player (change d) }
  | .drive player mapper now gain sink =>
    let driven := t.hub.drive player mapper now gain sink
    { hub := driven.hub
      writes := t.writes ++ driven.written.toList.map fun out => ⟨player, out, (sink out).isOk⟩ }

def performAll (t : HubTrace V) (calls : List (HubCall V)) : HubTrace V := calls.foldl perform t

def run (calls : List (HubCall V)) : HubTrace V := performAll ⟨.empty, []⟩ calls

end HubTrace

/-! ## What gamepads have accepted -/

theorem lastAccepted_concat (writes : List MotorWrite) (w : MotorWrite) (player : UInt8) :
    lastAccepted (writes ++ [w]) player =
      if w.player = player ∧ w.accepted = true then w.output else lastAccepted writes player := by
  rw [lastAccepted, List.filter_append]
  split
  · rename_i h
    simp [h]
  · rename_i h
    simp [h, lastAccepted]

namespace Hub

/-- The output that the hub takes a gamepad to have. -/
def remembered (h : Hub V) (player : UInt8) : MotorOutput := (h.accepted.get? player).getD .idle

section

omit [Scalar V]

theorem accepted_setDevice (h : Hub V) (player : UInt8) (d : Device V) :
    (h.setDevice player d).accepted = h.accepted := by
  unfold setDevice
  split <;> rfl

theorem accepted_share (h : Hub V) (player : UInt8) :
    (h.share player).2.accepted = h.accepted := by
  unfold share
  split <;> rfl

theorem accepted_enroll (h : Hub V) (player : UInt8) (controller : UInt64) :
    (h.enroll player controller).accepted = h.accepted := by
  unfold enroll
  dsimp only
  split <;> rfl

theorem accepted_register? {h h' : Hub V} {player : UInt8} {controller : UInt64} {x : DeviceHandle}
    (hr : h.register? player controller = some (x, h')) : h'.accepted = h.accepted := by
  unfold register? at hr
  split at hr
  · cases hr
  · obtain ⟨-, rfl⟩ := Prod.mk.inj (Option.some.inj hr)
    exact (accepted_enroll ..).trans (h.accepted_share _)

theorem accepted_unregister (h : Hub V) (player : UInt8) (controller : UInt64) :
    (h.unregister player controller).accepted = h.accepted := by
  unfold unregister
  dsimp only
  split
  · rfl
  · split
    · rfl
    · unfold stopEffects
      split <;> rfl

theorem remembered_of_accepted {h h' : Hub V} (ha : h'.accepted = h.accepted) (player : UInt8) :
    h'.remembered player = h.remembered player := by
  rw [remembered, ha, remembered]

end

theorem accepted_output (h : Hub V) (player : UInt8) (mapper : Mapper) (now gain : UInt32) :
    (h.output player mapper now gain).2.accepted = h.accepted := by
  unfold output
  split
  · rfl
  · split
    · rfl
    · exact accepted_setDevice ..

theorem drive_cases (h : Hub V) (player : UInt8) (mapper : Mapper) (now gain : UInt32)
    (sink : MotorOutput → Except GamepadError Unit) :
    let out := (h.output player mapper now gain).1
    let after := (h.output player mapper now gain).2
    let driven := h.drive player mapper now gain sink
    (¬player < gamepadCount ∧ driven = ⟨.error (.invalidPlayer player), none, h⟩) ∨
    (player < gamepadCount ∧ out = h.remembered player ∧ driven = ⟨.ok out, none, after⟩) ∨
    (player < gamepadCount ∧ out ≠ h.remembered player ∧
      ∃ e, sink out = .error e ∧ driven = ⟨.error e, some out, after⟩) ∨
    (player < gamepadCount ∧ out ≠ h.remembered player ∧ sink out = .ok () ∧
      driven = ⟨.ok out, some out, { after with accepted := h.accepted.insert player out }⟩) := by
  intro out after driven
  have hafter : after.accepted = h.accepted := accepted_output h player mapper now gain
  by_cases hplayer : player < gamepadCount
  · right
    have hcheck : checkPlayer player = .ok player := if_pos hplayer
    have hremembered : (after.accepted.get? player).getD .idle = h.remembered player := by
      rw [hafter, remembered]
    by_cases hout : out = h.remembered player
    · left
      refine ⟨hplayer, hout, ?_⟩
      simp only [driven, drive, hcheck]
      exact if_pos (hout.trans hremembered.symm)
    · right
      have hdiffers : ¬out = (after.accepted.get? player).getD .idle := fun heq =>
        hout (heq.trans hremembered)
      cases hsink : sink out with
      | error e =>
        left
        refine ⟨hplayer, hout, e, rfl, ?_⟩
        simp only [driven, drive, hcheck]
        rw [if_neg hdiffers, hsink]
      | ok u =>
        right
        refine ⟨hplayer, hout, rfl, ?_⟩
        simp only [driven, drive, hcheck]
        rw [if_neg hdiffers, hsink, ← hafter]
  · left
    have hcheck : checkPlayer player = .error (.invalidPlayer player) := if_neg hplayer
    refine ⟨hplayer, ?_⟩
    simp only [driven, drive, hcheck]

/-- A drive that succeeds returns what is remembered from then on; one that fails changes nothing
that is remembered. -/
theorem remembered_drive (h : Hub V) (player : UInt8) (mapper : Mapper) (now gain : UInt32)
    (sink : MotorOutput → Except GamepadError Unit) :
    (h.drive player mapper now gain sink).hub.remembered player =
      match (h.drive player mapper now gain sink).result with
      | .ok c => c
      | .error _ => h.remembered player := by
  have haccepted := h.accepted_output player mapper now gain
  rcases h.drive_cases player mapper now gain sink with
    ⟨-, hd⟩ | ⟨-, hout, hd⟩ | ⟨-, -, e, -, hd⟩ | ⟨-, -, -, hd⟩
  · rw [hd]
  · rw [hd, remembered_of_accepted haccepted]
    exact hout.symm
  · rw [hd, remembered_of_accepted haccepted]
  · rw [hd, remembered, OrderedMap.get?_insert, if_pos rfl]
    rfl

/-- A drive fails only for a player without a gamepad and where the gamepad refuses a write. -/
theorem result_drive (h : Hub V) (player : UInt8) (mapper : Mapper) (now gain : UInt32)
    (sink : MotorOutput → Except GamepadError Unit) :
    let out := (h.output player mapper now gain).1
    (h.drive player mapper now gain sink).result =
      if player < gamepadCount then
        if out = h.remembered player then .ok out else (sink out).map fun _ => out
      else .error (.invalidPlayer player) := by
  intro out
  rcases h.drive_cases player mapper now gain sink with
    ⟨hplayer, hd⟩ | ⟨hplayer, hout, hd⟩ | ⟨hplayer, hout, e, hsink, hd⟩ | ⟨hplayer, hout, hsink, hd⟩
  · rw [hd, if_neg hplayer]
  · rw [hd, if_pos hplayer, if_pos hout]
  · rw [hd, if_pos hplayer, if_neg hout, hsink]
    rfl
  · rw [hd, if_pos hplayer, if_neg hout, hsink]
    rfl

theorem accepted_drive_of_ne (h : Hub V) {player other : UInt8} (hne : other ≠ player)
    (mapper : Mapper) (now gain : UInt32) (sink : MotorOutput → Except GamepadError Unit) :
    (h.drive player mapper now gain sink).hub.accepted.get? other = h.accepted.get? other := by
  have haccepted := h.accepted_output player mapper now gain
  rcases h.drive_cases player mapper now gain sink with
    ⟨-, hd⟩ | ⟨-, -, hd⟩ | ⟨-, -, e, -, hd⟩ | ⟨-, -, -, hd⟩
  · rw [hd]
  · rw [hd, haccepted]
  · rw [hd, haccepted]
  · rw [hd, OrderedMap.get?_insert, if_neg (Ne.symm hne)]

end Hub

/-! ## The hub remembers what was accepted -/

namespace HubTrace

/-- For every player, the hub remembers what the gamepad last accepted. -/
def InStep (t : HubTrace V) : Prop :=
  ∀ player, t.hub.remembered player = lastAccepted t.writes player

theorem perform_cases (t : HubTrace V) (x : HubCall V) :
    ((t.perform x).hub.accepted = t.hub.accepted ∧ (t.perform x).writes = t.writes) ∨
      ∃ player mapper now gain sink, x = .drive player mapper now gain sink := by
  cases x with
  | register player controller =>
    left
    rw [perform]
    split
    · exact ⟨rfl, rfl⟩
    · rename_i x hub hr
      exact ⟨Hub.accepted_register? hr, rfl⟩
  | unregister player controller =>
    exact .inl ⟨Hub.accepted_unregister t.hub player controller, rfl⟩
  | operate player change =>
    left
    rw [perform]
    split
    · exact ⟨rfl, rfl⟩
    · exact ⟨Hub.accepted_setDevice .., rfl⟩
  | drive player mapper now gain sink => exact .inr ⟨player, mapper, now, gain, sink, rfl⟩

section

variable {t : HubTrace V} (h : t.InStep) (player : UInt8) (mapper : Mapper) (now gain : UInt32)
  (sink : MotorOutput → Except GamepadError Unit)

include h

theorem InStep.writes_drive :
    let out := (t.hub.output player mapper now gain).1
    (t.perform (.drive player mapper now gain sink)).writes = t.writes ++
      if player < gamepadCount ∧ out ≠ lastAccepted t.writes player
      then [⟨player, out, (sink out).isOk⟩] else [] := by
  intro out
  rw [← h player]
  rcases t.hub.drive_cases player mapper now gain sink with
    ⟨hplayer, hd⟩ | ⟨-, hout, hd⟩ | ⟨hplayer, hout, e, -, hd⟩ | ⟨hplayer, hout, -, hd⟩
  · simp [perform, hd, hplayer]
  · simp [perform, hd, out, hout]
  · simp [perform, hd, out, hplayer, hout]
  · simp [perform, hd, out, hplayer, hout]

theorem InStep.drive : (t.perform (.drive player mapper now gain sink)).InStep := by
  intro q
  have hq := h q
  have hafter := t.hub.accepted_output player mapper now gain
  rcases t.hub.drive_cases player mapper now gain sink with
    ⟨-, hd⟩ | ⟨-, -, hd⟩ | ⟨-, -, e, hsink, hd⟩ | ⟨-, -, hsink, hd⟩
  · simpa [perform, hd] using hq
  · simpa [perform, hd, Hub.remembered_of_accepted hafter] using hq
  · -- The write is on record, but it was not accepted.
    simp only [perform, hd, Option.toList_some, List.map_cons, List.map_nil, lastAccepted_concat,
      hsink, Except.isOk, Except.toBool, Bool.false_eq_true, and_false, if_false]
    rw [Hub.remembered_of_accepted hafter]
    exact hq
  · simp only [perform, hd, Option.toList_some, List.map_cons, List.map_nil, lastAccepted_concat,
      hsink, Except.isOk, Except.toBool, and_true, Hub.remembered, OrderedMap.get?_insert]
    split
    · rfl
    · exact hq

theorem InStep.lastAccepted_drive :
    lastAccepted (t.perform (.drive player mapper now gain sink)).writes player =
      match (t.hub.drive player mapper now gain sink).result with
      | .ok c => c
      | .error _ => lastAccepted t.writes player := by
  have hafter := h.drive player mapper now gain sink player
  rw [← hafter, ← h player]
  exact t.hub.remembered_drive player mapper now gain sink

end

theorem InStep.perform {t : HubTrace V} (h : t.InStep) (x : HubCall V) : (t.perform x).InStep := by
  rcases t.perform_cases x with ⟨haccepted, hwrites⟩ | ⟨player, mapper, now, gain, sink, rfl⟩
  · intro player
    rw [Hub.remembered_of_accepted haccepted, hwrites]
    exact h player
  · exact h.drive player mapper now gain sink

theorem InStep.performAll {t : HubTrace V} (h : t.InStep) (calls : List (HubCall V)) :
    (t.performAll calls).InStep := by
  induction calls generalizing t with
  | nil => exact h
  | cons x calls ih => exact ih (h.perform x)

theorem inStep_run (calls : List (HubCall V)) : (run calls).InStep :=
  InStep.performAll (fun _ => rfl) calls

theorem lastAccepted_perform (t : HubTrace V) {player : UInt8} {x : HubCall V}
    (hx : ¬x.Drives player) :
    lastAccepted (t.perform x).writes player = lastAccepted t.writes player := by
  rcases t.perform_cases x with ⟨-, hwrites⟩ | ⟨other, mapper, now, gain, sink, rfl⟩
  · rw [hwrites]
  · have hother : other ≠ player := hx
    simp only [perform]
    cases (t.hub.drive other mapper now gain sink).written with
    | none => simp
    | some out =>
      rw [Option.toList_some, List.map_singleton, lastAccepted_concat]
      exact if_neg fun h => hother h.1

theorem lastAccepted_performAll (t : HubTrace V) {player : UInt8} {calls : List (HubCall V)}
    (hcalls : ∀ x ∈ calls, ¬x.Drives player) :
    lastAccepted (t.performAll calls).writes player = lastAccepted t.writes player := by
  induction calls generalizing t with
  | nil => rfl
  | cons x calls ih =>
    have hx := lastAccepted_perform t (hcalls x (List.mem_cons_self ..))
    have hrest := ih (t.perform x) fun y hy => hcalls y (List.mem_cons_of_mem _ hy)
    exact hrest.trans hx

end HubTrace

namespace Hub

/-- After any calls of a new hub, a drive fails only for a player without a gamepad and where the
gamepad refuses a write, and what it returns is what the gamepad last accepted. It writes at most
once, and only what differs from that; after a write that failed, the next drive of that gamepad
writes again if there still is a difference. What is remembered for another player stays, and a
drive for a player without a gamepad changes nothing. -/
theorem drive_keeps_step (calls : List (HubCall V)) (player : UInt8) (mapper : Mapper)
    (now gain : UInt32) (sink : MotorOutput → Except GamepadError Unit) :
    let before := HubTrace.run calls
    let out := (before.hub.output player mapper now gain).1
    let driven := before.hub.drive player mapper now gain sink
    let after := before.perform (.drive player mapper now gain sink)
    (driven.result =
      if player < gamepadCount then
        if out = lastAccepted before.writes player then .ok out else (sink out).map fun _ => out
      else .error (.invalidPlayer player)) ∧
    (∀ c, driven.result = .ok c → lastAccepted after.writes player = c) ∧
    after.writes = before.writes ++
      (if player < gamepadCount ∧ out ≠ lastAccepted before.writes player
        then [⟨player, out, (sink out).isOk⟩] else []) ∧
    (∀ e, driven.result = .error e → player < gamepadCount →
      ∀ (later : List (HubCall V)), (∀ x ∈ later, ¬x.Drives player) →
        ∀ (mapper' : Mapper) (now' gain' : UInt32) (sink' : MotorOutput → Except GamepadError Unit),
          let again := after.performAll later
          let out' := (again.hub.output player mapper' now' gain').1
          out' ≠ lastAccepted before.writes player →
            (again.perform (.drive player mapper' now' gain' sink')).writes =
              again.writes ++ [⟨player, out', (sink' out').isOk⟩]) ∧
    (∀ other, other ≠ player → driven.hub.accepted.get? other = before.hub.accepted.get? other) ∧
    (¬player < gamepadCount → driven.hub = before.hub) := by
  intro before out driven after
  have hstep : before.InStep := HubTrace.inStep_run calls
  have hlast := hstep.lastAccepted_drive player mapper now gain sink
  refine ⟨?_, ?_, ?_, ?_, ?_, ?_⟩
  · rw [← hstep player]
    exact before.hub.result_drive player mapper now gain sink
  · intro c hc
    rw [hlast]
    simp only [driven] at hc
    rw [hc]
  · exact hstep.writes_drive player mapper now gain sink
  · intro e he hplayer later hlater mapper' now' gain' sink' again out' hout
    have hagain : again.InStep := (hstep.perform _).performAll later
    have hsame : lastAccepted again.writes player = lastAccepted before.writes player := by
      rw [HubTrace.lastAccepted_performAll after hlater, hlast]
      simp only [driven] at he
      rw [he]
    have hwrites := hagain.writes_drive player mapper' now' gain' sink'
    rw [← hsame] at hout
    exact hwrites.trans (congrArg _ (if_pos ⟨hplayer, hout⟩))
  · intro other hne
    exact before.hub.accepted_drive_of_ne hne mapper now gain sink
  · intro hplayer
    rcases before.hub.drive_cases player mapper now gain sink with ⟨-, hd⟩ | h | h | h
    · exact congrArg Driven.hub hd
    · exact absurd h.1 hplayer
    · exact absurd h.1 hplayer
    · exact absurd h.1 hplayer

end Hub

/-! ## A run in whole numbers -/

namespace Whole

/-- A constant force at full strength. -/
def push : Effect Whole := ⟨1, .constant ⟨10000⟩, some 1000, 1, gainMax, none, .default, [.x]⟩

/-- Every motor follows the axis of the force. -/
def mapper : Mapper := ⟨"Push", .empty, fun _ => .singleAxis .x .both⟩

/-- Register a controller and start the force. -/
def calls : List (HubCall Whole) :=
  [.register 0 7, .operate 0 fun d => ⟨d.effects.insert 1 push, d.playing.insert 1 100⟩]

end Whole

namespace Hub

/-- A write that fails, and the drive after it. -/
theorem drive_keeps_step_failed_write :
    let full : MotorOutput := .ofFn fun _ => 65535
    let failed := (HubTrace.run Whole.calls).perform
      (.drive 0 Whole.mapper 110 10000 fun _ => .error (.notConnected 0))
    let again := failed.perform (.drive 0 Whole.mapper 120 10000 fun _ => .ok ())
    failed.writes = [⟨0, full, false⟩] ∧ again.writes = [⟨0, full, false⟩, ⟨0, full, true⟩] ∧
      (failed.hub.drive 0 Whole.mapper 120 10000 fun _ => .ok ()).result = .ok full ∧
      lastAccepted again.writes 0 = full := by
  obtain ⟨-, -, hwrites, hretry, -, -⟩ :=
    drive_keeps_step Whole.calls 0 Whole.mapper 110 10000 fun _ => .error (.notConnected 0)
  obtain ⟨-, hok, -, -, -, -⟩ :=
    drive_keeps_step
      (Whole.calls ++ [.drive 0 Whole.mapper 110 10000 fun _ => .error (.notConnected 0)])
      0 Whole.mapper 120 10000 fun _ => .ok ()
  have hagain := hretry (.notConnected 0) rfl (by decide) [] (by simp) Whole.mapper 120 10000
    (fun _ => .ok ()) (by decide)
  exact ⟨hwrites, hagain, rfl, hok _ rfl⟩

end Hub

end VirtualPad
