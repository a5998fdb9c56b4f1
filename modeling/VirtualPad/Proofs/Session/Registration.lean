import Mathlib.Data.List.Induction
import Mathlib.Data.List.Nodup
import Mathlib.Data.List.ReduceOption
import VirtualPad.Proofs.Session.Run

/-!
# Both sides know the same registrations

A controller keeps the handle that it got when it registered, and the hub keeps the ids and the handle
of each player. Their `Accord` says that the hub has, for each player, exactly the ids of the members
that hold a registration there, and that these hold the handle of their player. It is about members up
to their order, so a call that changes one seat is looked at with that seat in front of the others.
-/

namespace VirtualPad

variable {V W : Type} [Scalar V] [Scalar W] [Precision V W]

/-! ## Members on seats -/

namespace Member

/-- The member is registered for a gamepad. -/
def holds (m : Member) (p : UInt8) : Bool := m.registered && m.player == p

/-- The ids of the members registered for a gamepad. -/
def holders (ms : List Member) (p : UInt8) : List UInt64 := (ms.filter (·.holds p)).map Member.id

theorem holders_cons (m : Member) (ms : List Member) (p : UInt8) :
    holders (m :: ms) p = (if m.holds p then [m.id] else []) ++ holders ms p := by
  unfold holders
  rw [List.filter_cons]
  split <;> rfl

theorem holders_cons_of_not_registered {m : Member} (h : m.registered = false) (ms : List Member)
    (p : UInt8) : holders (m :: ms) p = holders ms p := by
  rw [holders_cons, holds, h]
  rfl

theorem Perm.holders {ms ms' : List Member} (h : ms.Perm ms') (p : UInt8) :
    (holders ms p).Perm (holders ms' p) := (h.filter _).map _

theorem mem_holders {ms : List Member} {p : UInt8} {id : UInt64} :
    id ∈ holders ms p ↔ ∃ m ∈ ms, m.registered = true ∧ m.player = p ∧ m.id = id := by
  simp only [holders, List.mem_map, List.mem_filter, holds, Bool.and_eq_true, beq_iff_eq]
  constructor
  · rintro ⟨m, ⟨hm, hr, hp⟩, hid⟩
    exact ⟨m, hm, hr, hp, hid⟩
  · rintro ⟨m, hm, hr, hp, hid⟩
    exact ⟨m, ⟨hm, hr, hp⟩, hid⟩

end Member

theorem reduceOption_set_perm {α : Type} {l : List (Option α)} {i : Nat} (hi : i < l.length)
    (x : Option α) :
    (l.set i x).reduceOption.Perm (x.toList ++ (l.eraseIdx i).reduceOption) := by
  have hcons (r : List (Option α)) : (x :: r).reduceOption = x.toList ++ r.reduceOption := by
    cases x <;> rfl
  rw [List.set_eq_take_append_cons_drop, if_pos hi, List.eraseIdx_eq_take_drop_succ,
    List.reduceOption_append, List.reduceOption_append, hcons]
  exact List.perm_append_comm_assoc ..

theorem reduceOption_perm {α : Type} {l : List (Option α)} {i : Nat} {x : α}
    (h : l[i]? = some (some x)) : l.reduceOption.Perm (x :: (l.eraseIdx i).reduceOption) := by
  obtain ⟨hi, hx⟩ := List.getElem?_eq_some_iff.mp h
  have hset : l.set i (some x) = l := by
    rw [← hx]
    exact List.set_getElem_self hi
  have := reduceOption_set_perm hi (some x)
  rwa [hset] at this

/-- Every member sits on the seat that it got when it joined. -/
structure Seated (roster : List (Option Member)) (ids : List UInt64) : Prop where
  length : roster.length = ids.length
  id_eq {i : Nat} {m : Member} : roster[i]? = some (some m) → ids[i]? = some m.id

namespace Seated

variable {roster : List (Option Member)} {ids : List UInt64}

theorem sublist (h : Seated roster ids) : (roster.reduceOption.map Member.id).Sublist ids := by
  induction roster generalizing ids with
  | nil => exact List.nil_sublist _
  | cons slot roster ih =>
    cases ids with
    | nil => cases h.length
    | cons id ids =>
      have hrest : Seated roster ids :=
        ⟨Nat.succ.inj h.length, fun {i m} hm => h.id_eq (i := i + 1) hm⟩
      cases slot with
      | none => exact (ih hrest).cons id
      | some m =>
        have hid : id = m.id := Option.some.inj (h.id_eq (i := 0) rfl)
        rw [hid]
        exact (ih hrest).cons_cons m.id

theorem nodup (h : Seated roster ids) (hids : ids.Nodup) :
    (roster.reduceOption.map Member.id).Nodup :=
  h.sublist.nodup hids

theorem eq_of_id_eq (h : Seated roster ids) (hids : ids.Nodup) {m m' : Member}
    (hm : some m ∈ roster) (hm' : some m' ∈ roster) (hid : m.id = m'.id) : m = m' :=
  List.inj_on_of_nodup_map (h.nodup hids) (List.reduceOption_mem_iff.mpr hm)
    (List.reduceOption_mem_iff.mpr hm') hid

theorem concat (h : Seated roster ids) (m : Member) :
    Seated (roster ++ [some m]) (ids ++ [m.id]) where
  length := by rw [List.length_append, List.length_append, h.length]; rfl
  id_eq {i n} hn := by
    rw [List.getElem?_append] at hn ⊢
    rw [← h.length]
    split at hn
    · rename_i hi
      rw [if_pos hi]
      exact h.id_eq hn
    · rename_i hi
      rw [if_neg hi]
      have hi0 : i - roster.length = 0 := by
        obtain ⟨hlt, -⟩ := List.getElem?_eq_some_iff.mp hn
        rw [List.length_singleton] at hlt
        omega
      rw [hi0] at hn ⊢
      obtain rfl := Option.some.inj (Option.some.inj hn)
      rfl

theorem set (h : Seated roster ids) {i : Nat} {m : Member} (hm : roster[i]? = some (some m))
    {m' : Option Member} (hm' : ∀ n ∈ m', n.id = m.id) : Seated (roster.set i m') ids where
  length := by rw [List.length_set, h.length]
  id_eq {k n} hn := by
    rw [List.getElem?_set] at hn
    split at hn
    · rename_i hik
      split at hn
      · have hn : n ∈ m' := Option.some.inj hn
        rw [← hik, hm' n hn]
        exact h.id_eq hm
      · cases hn
    · exact h.id_eq hn

end Seated

namespace Session

section

omit [Scalar V]

def live (s : Session V) : List Member := s.roster.reduceOption

theorem mem_live {s : Session V} {m : Member} : m ∈ s.live ↔ some m ∈ s.roster :=
  List.reduceOption_mem_iff

/-- The hub and the members know the same registrations. -/
structure Accord (s : Session V) (ids : List UInt64) : Prop where
  seated : Seated s.roster ids
  registered (p : UInt8) : (s.hub.registered p).Perm (Member.holders s.live p)
  entitled {m : Member} : some m ∈ s.roster → m.registered = true →
    m.canRegister = true ∧ m.player < gamepadCount ∧ s.hub.handle? m.player = m.handle

theorem accord_empty : (empty : Session V).Accord [] where
  seated := ⟨rfl, fun h => by simp [roster, empty] at h⟩
  registered p := .refl _
  entitled h := by simp [roster, empty] at h

theorem Moves.handle?_of_some {s s' : Session V} {id : Option UInt64} (h : s.Moves s' id)
    {p : UInt8} {x : DeviceHandle} (hx : s.hub.handle? p = some x) : s'.hub.handle? p = some x := by
  cases h with
  | stays hroster hregistered hhandle => rw [hhandle, hx]
  | enters hm hroster hhub => rw [hhub, hx]
  | registers hm hcan hnot hroster hhub =>
    exact (Hub.of_register?_eq_some hhub).2.handle?_of_some hx
  | leaves hm hregistered hm' hroster hhub => rw [hhub, Hub.handle?_unregister, hx]
  | goes hm hnot hroster hhub => rw [hhub, hx]

section

variable {s s' : Session V} {ids : List UInt64} (h : s.Accord ids) {i : Nat} {m : Member}
  (hm : s.roster[i]? = some (some m))

/-- The members on the other seats. -/
def others (s : Session V) (i : Nat) : List Member := (s.roster.eraseIdx i).reduceOption

include h hm

theorem Accord.registered_perm (p : UInt8) :
    (s.hub.registered p).Perm ((if m.holds p then [m.id] else []) ++
      Member.holders (s.others i) p) := by
  rw [← Member.holders_cons]
  exact (h.registered p).trans (Member.Perm.holders (reduceOption_perm hm) p)

theorem Accord.not_mem_others (hids : ids.Nodup) (p : UInt8) :
    m.id ∉ Member.holders (s.others i) p := by
  have hnodup := ((reduceOption_perm hm).map Member.id).nodup_iff.mp (h.seated.nodup hids)
  intro hmem
  obtain ⟨n, hn, -, -, hid⟩ := Member.mem_holders.mp hmem
  exact (List.nodup_cons.mp hnodup).1 (List.mem_map.mpr ⟨n, hn, hid⟩)

theorem Accord.registered_register? (hids : ids.Nodup) (hnot : m.registered = false) {hub : Hub V}
    {x : DeviceHandle}
    (hhub : ∀ p, hub.registered p =
      if m.player = p ∧ m.id ∉ s.hub.registered m.player then m.id :: s.hub.registered m.player
      else s.hub.registered p) (p : UInt8) :
    (hub.registered p).Perm
      (Member.holders ({ m with handle := some x } :: s.others i) p) := by
  have hothers (p : UInt8) := h.registered_perm hm p
  simp only [Member.holds, hnot, Bool.false_and, Bool.false_eq_true, if_false,
    List.nil_append] at hothers
  have hnew : m.id ∉ s.hub.registered m.player := fun hmem =>
    h.not_mem_others hm hids m.player ((hothers m.player).mem_iff.mp hmem)
  rw [hhub, Member.holders_cons, Member.holds, Member.registered, Option.isSome_some, Bool.true_and]
  by_cases hp : m.player = p
  · subst hp
    simp only [hnew, not_false_eq_true, and_self, if_true, beq_self_eq_true]
    exact (hothers m.player).cons _
  · have hp' : (m.player == p) = false := by simpa using hp
    simp only [hp, false_and, if_false, hp', Bool.false_eq_true, List.nil_append]
    exact hothers p

theorem Accord.registered_unregister (hids : ids.Nodup) (hregistered : m.registered = true)
    (p : UInt8) :
    ((s.hub.unregister m.player m.id).registered p).Perm (Member.holders (s.others i) p) := by
  have hothers := h.registered_perm hm p
  rw [Member.holds, hregistered, Bool.true_and] at hothers
  rw [Hub.registered_unregister]
  by_cases hp : m.player = p
  · subst hp
    rw [beq_self_eq_true, if_pos rfl] at hothers
    have hfilter : (Member.holders (s.others i) m.player).filter (· ≠ m.id) =
        Member.holders (s.others i) m.player := by
      rw [List.filter_eq_self]
      intro other hother
      rw [decide_eq_true_eq]
      rintro rfl
      exact h.not_mem_others hm hids m.player hother
    rw [if_pos rfl, ← hfilter]
    exact (hothers.filter _).trans (.of_eq (by simp))
  · have hp' : (m.player == p) = false := by simpa using hp
    rw [hp'] at hothers
    rw [if_neg hp]
    exact hothers

theorem Accord.of_set {x : Option Member} (hroster : s'.roster = s.roster.set i x)
    (hhandle : ∀ p y, s.hub.handle? p = some y → s'.hub.handle? p = some y)
    (hid : ∀ n ∈ x, n.id = m.id)
    (hentitled : ∀ n ∈ x, n.registered = true → n.canRegister = true ∧ n.player < gamepadCount ∧
      s'.hub.handle? n.player = n.handle)
    (hregistered : ∀ p, (s'.hub.registered p).Perm (Member.holders (x.toList ++ s.others i) p)) :
    s'.Accord ids := by
  obtain ⟨hi, -⟩ := List.getElem?_eq_some_iff.mp hm
  have hlive : s'.live.Perm (x.toList ++ s.others i) := by
    rw [live, hroster]
    exact reduceOption_set_perm hi x
  refine ⟨?_, fun p => ?_, fun {n} hn hr => ?_⟩
  · rw [hroster]
    exact h.seated.set hm hid
  · exact (hregistered p).trans (Member.Perm.holders hlive p).symm
  · rw [hroster] at hn
    rcases List.mem_or_eq_of_mem_set hn with hn | hn
    · obtain ⟨hcan, hplayer, hy⟩ := h.entitled hn hr
      obtain ⟨y, hheld⟩ := Option.isSome_iff_exists.mp hr
      exact ⟨hcan, hplayer, (hhandle _ y (hy.trans hheld)).trans hheld.symm⟩
    · exact hentitled n hn.symm hr

end

/-- A call of any kind keeps both sides in accord. -/
theorem Accord.moves {s s' : Session V} {ids : List UInt64} (h : s.Accord ids)
    {id : Option UInt64} (hmoves : s.Moves s' id) (hids : ids.Nodup) :
    s'.Accord (ids ++ id.toList) := by
  have hhandle (p : UInt8) (y : DeviceHandle) := hmoves.handle?_of_some (p := p) (x := y)
  cases hmoves with
  | stays hroster hregistered hstays =>
    rw [Option.toList_none, List.append_nil]
    refine ⟨by rw [hroster]; exact h.seated, fun p => ?_, fun {m} hm hr => ?_⟩
    · rw [hregistered, live, hroster]
      exact h.registered p
    · rw [hroster] at hm
      rw [hstays]
      exact h.entitled hm hr
  | @enters m hm hroster hhub =>
    rw [Option.toList_some]
    have hlive : s'.live.Perm (m :: s.live) := by
      rw [live, hroster, List.reduceOption_append]
      exact List.perm_append_comm
    refine ⟨by rw [hroster]; exact h.seated.concat m, fun p => ?_, fun {n} hn hr => ?_⟩
    · rw [hhub]
      refine .trans ?_ (Member.Perm.holders hlive p).symm
      rw [Member.holders_cons_of_not_registered hm]
      exact h.registered p
    · rw [hroster, List.mem_append, List.mem_singleton] at hn
      rcases hn with hn | hn
      · rw [hhub]
        exact h.entitled hn hr
      · obtain rfl := Option.some.inj hn
        rw [hm] at hr
        cases hr
  | @registers i m x hm hcan hnot hroster hhub =>
    rw [Option.toList_none, List.append_nil]
    obtain ⟨hplayer, hregisters⟩ := Hub.of_register?_eq_some hhub
    refine h.of_set hm hroster hhandle (fun n hn => ?_) (fun n hn _ => ?_)
      (h.registered_register? hm hids hnot hregisters.registered)
    · rw [← Option.mem_some_iff.mp hn]
    · obtain rfl := Option.mem_some_iff.mp hn
      exact ⟨hcan, hplayer, hregisters.handle?⟩
  | @leaves i m x hm hregistered hx hroster hhub =>
    rw [Option.toList_none, List.append_nil]
    refine h.of_set hm hroster hhandle (fun n hn => ?_) (fun n hn hr => ?_) fun p => ?_
    · rw [hx n hn]
    · rw [hx n hn] at hr
      cases hr
    · rw [hhub]
      refine (h.registered_unregister hm hids hregistered p).trans (.of_eq ?_)
      cases hn : x with
      | none => rfl
      | some n =>
        symm
        refine Member.holders_cons_of_not_registered ?_ ..
        rw [hx n hn]
        rfl
  | @goes i m hm hnot hroster hhub =>
    rw [Option.toList_none, List.append_nil]
    refine h.of_set hm hroster hhandle (fun n hn => by cases hn) (fun n hn => by cases hn)
      fun p => ?_
    have hothers := h.registered_perm hm p
    rw [Member.holds, hnot] at hothers
    rw [hhub]
    exact hothers

theorem Accord.entitled_seats {s : Session V} {ids : List UInt64} (h : s.Accord ids) :
    s.Entitled := fun _ hm hr => (h.entitled hm hr).1

/-! ## What accord means for a controller -/

section

variable {s : Session V} {ids : List UInt64} (h : s.Accord ids)

include h

theorem Accord.entitled_seat {i : Nat} {seat : Seat} (hseat : s.seat? i = some seat)
    (hregistered : seat.controller.registered = true) :
    seat.controller.canRegister = true ∧ seat.controller.player < gamepadCount ∧
      s.hub.handle? seat.controller.player = seat.controller.handle :=
  h.entitled (List.mem_of_getElem? (s.roster_getElem? hseat)) hregistered

theorem Accord.mem_registered_iff {p : UInt8} {id : UInt64} :
    id ∈ s.hub.registered p ↔
      ∃ m, some m ∈ s.roster ∧ m.registered = true ∧ m.player = p ∧ m.id = id := by
  rw [(h.registered p).mem_iff, Member.mem_holders]
  simp only [mem_live]

theorem Accord.registered_eq (hids : ids.Nodup) {i : Nat} {seat : Seat}
    (hseat : s.seat? i = some seat) :
    seat.controller.registered =
      s.hub.isRegistered seat.controller.player seat.controller.id := by
  have hm := List.mem_of_getElem? (s.roster_getElem? hseat)
  rw [Bool.eq_iff_iff, Hub.isRegistered_iff, h.mem_registered_iff]
  constructor
  · intro hr
    exact ⟨_, hm, hr, rfl, rfl⟩
  · rintro ⟨m, hm', hr, -, hid⟩
    obtain rfl := h.seated.eq_of_id_eq hids hm' hm hid
    exact hr

theorem Accord.registrationCount_eq (p : UInt8) :
    s.hub.registrationCount p = s.seats.countP fun seat =>
      seat.any fun seat => seat.controller.registered && seat.controller.player == p := by
  have hlength : (Member.holders s.live p).length = s.live.countP (·.holds p) := by
    rw [Member.holders, List.length_map, List.countP_eq_length_filter]
  rw [Hub.registrationCount, (h.registered p).length_eq, hlength, live, roster,
    List.reduceOption, List.filterMap_map, List.countP_filterMap]
  congr 1
  funext seat
  cases seat <;> rfl

theorem Accord.isRegistered_of_left (hids : ids.Nodup) {i : Nat} {id : UInt64}
    (hid : ids[i]? = some id) (hleft : s.seat? i = none) (p : UInt8) :
    s.hub.isRegistered p id = false := by
  rw [Bool.eq_false_iff]
  intro hr
  obtain ⟨m, hm, -, -, rfl⟩ := h.mem_registered_iff.mp ((Hub.isRegistered_iff ..).mp hr)
  obtain ⟨k, hk⟩ := List.getElem?_of_mem hm
  -- The id was on the seat of that member and on no other.
  obtain ⟨hi, -⟩ := List.getElem?_eq_some_iff.mp hid
  obtain rfl := (List.getElem?_inj hi hids).mp (hid.trans (h.seated.id_eq hk).symm)
  obtain ⟨seat, hseat, -⟩ := s.seat?_of_roster hk
  rw [hleft] at hseat
  cases hseat

end

/-! ## Giving up a registration -/

/-- Whether by leaving or not, giving up a registration stops the effects of a device exactly if
the player has no registration left. -/
theorem Accord.device?_unregister {s : Session V} {ids : List UInt64} (h : s.Accord ids)
    {i : Nat} {seat : Seat} (hseat : s.seat? i = some seat) (p : UInt8) :
    let hub := (seat.controller.unregister s.hub).2
    hub.device? p = (s.hub.device? p).map fun d =>
      if 0 < s.hub.registrationCount p ∧ hub.registrationCount p = 0
      then { d with playing := .empty } else d := by
  intro hub
  have hm := List.mem_of_getElem? (s.roster_getElem? hseat)
  rcases seat.controller.unregister_cases s.hub fun hr => (h.entitled_seat hseat hr).1 with
    ⟨-, hu⟩ | ⟨hregistered, hu⟩
  · have hhub : hub = s.hub := by simp only [hub, hu]
    have hnot : ¬(0 < s.hub.registrationCount p ∧ s.hub.registrationCount p = 0) := by omega
    simp only [hhub, hnot, if_false, Option.map_id']
  · have hhub : hub = s.hub.unregister seat.controller.player seat.controller.id := by
      simp only [hub, hu]
    have hmem : seat.controller.id ∈ s.hub.registered seat.controller.player :=
      h.mem_registered_iff.mpr ⟨_, hm, hregistered, rfl, rfl⟩
    have hlast : (seat.controller.player = p ∧
          (s.hub.registered seat.controller.player).filter (· ≠ seat.controller.id) = []) ↔
        (0 < s.hub.registrationCount p ∧ hub.registrationCount p = 0) := by
      rw [hhub, Hub.registrationCount, Hub.registrationCount, Hub.registered_unregister]
      by_cases hp : seat.controller.player = p
      · subst hp
        have hpos := List.length_pos_of_mem hmem
        simp only [true_and, if_true, List.length_eq_zero_iff, hpos]
      · simp only [hp, false_and, if_false, false_iff]
        omega
    simp only [← hlast]
    rw [hhub, Hub.device?_unregister]
    simp only [hmem, true_and]
    split
    · rfl
    · rw [Option.map_id']

/-! ## Registering -/

/-- Registering succeeds for controllers that can register and whose player has a gamepad, and
leaves every device as it is. -/
theorem Accord.register {s : Session V} {ids : List UInt64} (h : s.Accord ids) {i : Nat}
    {seat : Seat} (hseat : s.seat? i = some seat) :
    (s.register i seat).1 =
        (seat.controller.canRegister && decide (seat.controller.player < gamepadCount)) ∧
      ∀ p d, s.hub.device? p = some d → (s.register i seat).2.hub.device? p = some d := by
  unfold Session.register
  rcases seat.controller.register_cases s.hub with ⟨done, hr⟩ | ⟨x, hub, hcan, hnot, hhub, hr⟩
  · rw [hr]
    refine ⟨?_, fun p d hd => hd⟩
    have hdone : (seat.controller.register s.hub).1 = done := by rw [hr]
    rw [← hdone, Controller.register]
    cases hcan : seat.controller.canRegister with
    | false => rfl
    | true =>
      cases hregistered : seat.controller.registered with
      | true =>
        obtain ⟨-, hplayer, -⟩ := h.entitled_seat hseat hregistered
        simp [hplayer]
      | false =>
        by_cases hplayer : seat.controller.player < gamepadCount
        · obtain ⟨x, hub, hhub, -⟩ := s.hub.register?_eq_some hplayer seat.controller.id
          simp [hplayer, hhub]
        · simp [hplayer, Hub.register?_eq_none hplayer]
  · rw [hr]
    obtain ⟨hplayer, hregisters⟩ := Hub.of_register?_eq_some hhub
    exact ⟨by simp [hcan, hplayer], fun p d hd => hregisters.device?_of_some hd⟩

/-! ## Sharing a device -/

theorem Accord.exists_device? {s : Session V} {ids : List UInt64} (h : s.Accord ids) {i : Nat}
    {seat : Seat} (hseat : s.seat? i = some seat) (hregistered : seat.controller.registered = true) :
    ∃ x d, seat.controller.handle = some x ∧ s.hub.handle? seat.controller.player = some x ∧
      seat.controller.device? s.hub = some d := by
  obtain ⟨x, hx⟩ := Option.isSome_iff_exists.mp hregistered
  obtain ⟨-, -, hhandle⟩ := h.entitled_seat hseat hregistered
  rw [hx] at hhandle
  obtain ⟨d, hd, -⟩ := Hub.exists_device? hhandle
  refine ⟨x, d, hx, hhandle, ?_⟩
  rw [Controller.device?, hx]
  exact hd

end

/-! ## Runs -/

def run (calls : List (SessionCall V)) : Session V := calls.foldl perform empty

theorem run_concat (calls : List (SessionCall V)) (x : SessionCall V) :
    run (calls ++ [x]) = (run calls).perform x := by
  rw [run, List.foldl_append]
  rfl

theorem accord_run (calls : List (SessionCall V)) (h : (calls.filterMap SessionCall.id?).Nodup) :
    (run calls).Accord (calls.filterMap SessionCall.id?) := by
  induction calls using List.reverseRec with
  | nil => exact accord_empty
  | append_singleton calls x ih =>
    rw [List.filterMap_append] at h ⊢
    have hids := (List.nodup_append.mp h).1
    have hx : [x].filterMap SessionCall.id? = x.id?.toList := by cases x <;> rfl
    rw [run_concat, hx]
    have hmoves := (run calls).perform_moves (ih hids).entitled_seats x
    exact (ih hids).moves hmoves hids

/-- After any calls in a session whose controllers have different ids, a controller is registered
exactly if the hub has its id for its player, and the hub counts the registered controllers of each
player. Registering succeeds exactly for controllers that can register and whose player has a
gamepad, and leaves every device as it is. Nobody who left is registered. The registered controllers
of a player hold the same device: they got the same handle, the one that the hub has for the player,
and what one of them does to the device behind it the others see. Giving up a registration, on the
seat or by leaving it, keeps the effects of every device, and stops them exactly if it was the last
registration of the player. -/
theorem run_registrations (calls : List (SessionCall V))
    (hids : (calls.filterMap SessionCall.id?).Nodup) :
    let s := run calls
    (∀ i seat, s.seat? i = some seat →
      seat.controller.registered =
        s.hub.isRegistered seat.controller.player seat.controller.id ∧
      (s.register i seat).1 =
        (seat.controller.canRegister && decide (seat.controller.player < gamepadCount)) ∧
      (∀ p d, s.hub.device? p = some d → (s.register i seat).2.hub.device? p = some d) ∧
      ∀ s' ∈ [s.unregister i seat, s.drop i seat], ∀ p,
        s'.hub.device? p = (s.hub.device? p).map fun d =>
          if 0 < s.hub.registrationCount p ∧ s'.hub.registrationCount p = 0
          then { d with playing := .empty } else d) ∧
    (∀ p, s.hub.registrationCount p = s.seats.countP fun seat =>
      seat.any fun seat => seat.controller.registered && seat.controller.player == p) ∧
    (∀ i id, (calls.filterMap SessionCall.id?)[i]? = some id → s.seat? i = none →
      ∀ p, s.hub.isRegistered p id = false) ∧
    (∀ i j a b, s.seat? i = some a → s.seat? j = some b → a.controller.registered = true →
      b.controller.registered = true → a.controller.player = b.controller.player →
      ∃ x d, a.controller.handle = some x ∧ b.controller.handle = some x ∧
        s.hub.handle? a.controller.player = some x ∧ s.hub.device? a.controller.player = some d ∧
        a.controller.device? s.hub = some d ∧ b.controller.device? s.hub = some d ∧
        ∀ change, b.controller.device? (s.perform (.change x change)).hub = some (change d)) := by
  intro s
  have h : s.Accord _ := accord_run calls hids
  refine ⟨fun i seat hseat => ⟨h.registered_eq hids hseat, (h.register hseat).1,
    (h.register hseat).2, ?_⟩, h.registrationCount_eq,
    fun i id hid hleft => h.isRegistered_of_left hids hid hleft, ?_⟩
  · have hdevice := h.device?_unregister hseat
    intro s' hs'
    simp only [List.mem_cons, List.not_mem_nil, or_false] at hs'
    rcases hs' with rfl | rfl
    · exact hdevice
    · exact hdevice
  · intro i j a b ha hb hra hrb hplayer
    obtain ⟨x, d, hxa, hx, hd⟩ := h.exists_device? ha hra
    obtain ⟨y, e, hxb, hy, he⟩ := h.exists_device? hb hrb
    rw [← hplayer, hx] at hy
    obtain rfl := Option.some.inj hy
    rw [Controller.device?, hxa] at hd
    have hd : s.hub.deref? x = some d := hd
    have hdevice (c : Controller) (hc : c.handle = some x) (hub : Hub V) :
        c.device? hub = hub.deref? x := by
      rw [Controller.device?, hc]
      rfl
    refine ⟨x, d, hxa, hxb, hx, ?_, (hdevice _ hxa _).trans hd, (hdevice _ hxb _).trans hd,
      fun change => ?_⟩
    · rw [Hub.device?, hx]
      exact hd
    · rw [hdevice _ hxb]
      show (s.hub.modify x change).deref? x = some (change d)
      rw [Hub.deref?_modify, if_pos rfl, hd]
      rfl

end Session

/-! ## A session in whole numbers -/

/-- Two controllers share a gamepad, a third has none and a fourth cannot register. All of them try,
the first one twice, and the shared device is put to use. -/
def Whole.meeting : List (SessionCall Whole) :=
  [.enter 10 1 mapper true, .enter 20 1 mapper true, .enter 30 4 mapper true,
    .enter 40 1 mapper false, .operate 0 (.register .empty), .operate 1 (.register .empty),
    .operate 2 (.register .empty), .operate 3 (.register .empty), .operate 0 (.register .empty),
    .change ⟨0⟩ fun _ => ⟨.ofList [(1, push)], .ofList [(1, 100)]⟩]

namespace Session

/-- The first two share a device until the second one leaves, and its effects go on for the first. -/
theorem run_registrations_meeting :
    let calls := Whole.meeting ++ [.drop 1]
    let shared := run Whole.meeting
    let s := run calls
    (calls.filterMap SessionCall.id?).Nodup ∧
      (∃ a b x, shared.seat? 0 = some a ∧ shared.seat? 1 = some b ∧
        a.controller.handle = some x ∧ b.controller.handle = some x ∧
        b.controller.device? (shared.perform (.change x Device.stopAll)).hub =
          some ⟨.ofList [(1, Whole.push)], .empty⟩) ∧
      s.hub.registrationCount 1 = 1 ∧ s.hub.isRegistered 1 20 = false ∧
      (s.hub.device? 1).map Device.playing = some (.ofList [(1, 100)]) ∧
      ∃ seat, s.seat? 0 = some seat ∧ seat.controller.registered = true ∧
        s.hub.isRegistered 1 10 = true ∧ (s.register 0 seat).1 = true ∧
        (s.unregister 0 seat).hub.registrationCount 1 = 0 ∧
        (s.unregister 0 seat).hub.device? 1 = some ⟨.ofList [(1, Whole.push)], .empty⟩ := by
  intro calls shared s
  have hids : (calls.filterMap SessionCall.id?).Nodup := by decide
  have hmeeting : (Whole.meeting.filterMap SessionCall.id?).Nodup := by decide
  obtain ⟨-, -, -, hshare⟩ := run_registrations Whole.meeting hmeeting
  obtain ⟨hseats, hcount, hleft, -⟩ := run_registrations calls hids
  refine ⟨hids, ?_, hcount 1, hleft 1 20 rfl rfl 1, rfl, _, rfl, rfl, ?_⟩
  · obtain ⟨x, d, hxa, hxb, -, hd, -, -, hchange⟩ := hshare 0 1 _ _ rfl rfl rfl rfl rfl
    obtain rfl : ⟨.ofList [(1, Whole.push)], .ofList [(1, 100)]⟩ = d := Option.some.inj hd
    exact ⟨_, _, x, rfl, rfl, hxa, hxb, hchange Device.stopAll⟩
  · obtain ⟨hregistered, hregister, -, hgive⟩ := hseats 0 _ rfl
    have hlast := hgive _ (List.mem_cons_self ..) 1
    exact ⟨hregistered.symm, hregister, rfl, hlast⟩

end Session

end VirtualPad
