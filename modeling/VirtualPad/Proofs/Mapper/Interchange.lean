import Mathlib.Logic.Relation
import VirtualPad.Proofs.Mapper.Overlay

/-!
# Trees that can be exchanged

There is more than one way to write a tree: two mirrors cancel out, a mirror in front of several
trees can stand in front of each of them, and compound trees within a compound tree can be written
in one. Such rewritings may be made anywhere in a tree, in either direction and as often as one
likes. They change neither what is contributed nor the order in which it comes
(`Interchangeable.contributions_eq`), so nobody can tell the difference by a state or by the reports
(`interchangeable_unseen`).

A tree around the place of a rewriting may hand on a mirrored reading, half of one, or none. Hence
the congruence is about contributions to all readings at once.
-/

namespace VirtualPad

theorem Reading.mirror_mirror (r : Reading) : r.mirror.mirror = r := by
  cases r with
  | stick v =>
    have hlow : -32768 ≤ v.toInt := v.le_toInt
    have hhigh : v.toInt < 32768 := v.toInt_lt
    have hmirror : (Int16.ofInt (-1 - v.toInt)).toInt = -1 - v.toInt :=
      Int16.toInt_ofInt_of_le (by omega) (by omega)
    rw [mirror, mirror, hmirror, Int.sub_sub_self, Int16.ofInt_toInt]
  | button p => rw [mirror, mirror, Bool.not_not]
  | trigger v =>
    have hsub : 255 - (255 - v) = v := by grind
    rw [mirror, mirror, hsub]
  | rest => rfl

namespace ElementMapper

/-! ## Equations -/

/-- Two ways to write a tree. -/
inductive Equation : ElementMapper → ElementMapper → Prop
  | invert_invert (t : ElementMapper) : Equation (.invert (.invert t)) t
  | invert_compound (ts : List ElementMapper) :
    Equation (.invert (.compound ts)) (.compound (ts.map .invert))
  | singleton (t : ElementMapper) : Equation (.compound [t]) t
  | splice (before inner after : List ElementMapper) :
    Equation (.compound (before ++ .compound inner :: after)) (.compound (before ++ inner ++ after))

theorem Equation.contributions_eq {t u : ElementMapper} (h : Equation t u) (r : Reading) :
    t.contributions r = u.contributions r := by
  cases h with
  | invert_invert => rw [contributions, contributions, r.mirror_mirror]
  | invert_compound ts =>
    rw [contributions, contributions, contributions, contributionsAll_eq, contributionsAll_eq,
      List.flatMap_map]
    rfl
  | singleton => rw [contributions, contributionsAll, contributionsAll, List.append_nil]
  | splice before inner after =>
    rw [contributions, contributions, contributionsAll_eq, contributionsAll_eq,
      List.flatMap_append, List.flatMap_append, List.flatMap_append, List.flatMap_cons,
      contributions, contributionsAll_eq, List.append_assoc]

/-! ## Places in trees -/

/-- A tree with one subtree left open. -/
inductive Context where
  | here
  | invert (c : Context)
  | positive (c : Context) (n : ElementMapper)
  | negative (p : ElementMapper) (c : Context)
  | child (before : List ElementMapper) (c : Context) (after : List ElementMapper)

/-- Put a tree in the open place. -/
def Context.fill : Context → ElementMapper → ElementMapper
  | .here, t => t
  | .invert c, t => .invert (c.fill t)
  | .positive c n, t => .split (c.fill t) n
  | .negative p c, t => .split p (c.fill t)
  | .child before c after, t => .compound (before ++ c.fill t :: after)

/-- What goes on around a place depends only on what the tree there contributes. -/
theorem Context.contributions_fill (c : Context) {t u : ElementMapper}
    (h : ∀ r, t.contributions r = u.contributions r) (r : Reading) :
    (c.fill t).contributions r = (c.fill u).contributions r := by
  induction c generalizing r with
  | here => exact h r
  | invert c ih =>
    rw [fill, fill, contributions, contributions]
    exact ih r.mirror
  | positive c n ih =>
    rw [fill, fill, contributions, contributions, ih]
  | negative p c ih =>
    rw [fill, fill, contributions, contributions, ih]
  | child before c after ih =>
    rw [fill, fill, contributions, contributions, contributionsAll_eq, contributionsAll_eq,
      List.flatMap_append, List.flatMap_append, List.flatMap_cons, List.flatMap_cons, ih]

/-- One subtree is written in another way, by one of the equations. -/
def Rewritten (t u : ElementMapper) : Prop :=
  ∃ (c : Context) (a b : ElementMapper), Equation a b ∧ t = c.fill a ∧ u = c.fill b

/-- Subtrees are written in other ways, in either direction, any number of times. -/
def Interchangeable : ElementMapper → ElementMapper → Prop := Relation.EqvGen Rewritten

theorem Equation.rewritten {a b : ElementMapper} (h : Equation a b) (c : Context) :
    Interchangeable (c.fill a) (c.fill b) := .rel _ _ ⟨c, a, b, h, rfl, rfl⟩

theorem Interchangeable.contributions_eq {t u : ElementMapper} (h : Interchangeable t u)
    (r : Reading) : t.contributions r = u.contributions r := by
  induction h with
  | rel t u h =>
    obtain ⟨c, a, b, heq, rfl, rfl⟩ := h
    exact c.contributions_fill heq.contributions_eq r
  | refl t => rfl
  | symm t u _ ih => exact ih.symm
  | trans t u v _ _ iht ihu => exact iht.trans ihu

end ElementMapper

/-! ## Nothing is seen of it -/

namespace Mapper

open ElementMapper (Context Interchangeable)

/-- A mapper with one slot changed. -/
def withSlot (m : Mapper) (s : Slot) (t : ElementMapper) : Mapper :=
  { m with elements := m.elements.set s t }

theorem contributions_withSlot (m : Mapper) (s : Slot) {t u : ElementMapper}
    (h : ∀ r, t.contributions r = u.contributions r) (reading : Slot → Reading) :
    (m.withSlot s t).contributions reading = (m.withSlot s u).contributions reading := by
  unfold contributions
  congr 1
  funext slot
  simp only [withSlot, ElementMap.set]
  split
  · rw [h]
  · rfl

/-- A subtree may be exchanged for another way to write it wherever it stands. Whatever reading
arrives at the whole tree and whatever the state that receives it, the state comes out the same and
the same reports are made in the same order; and so it is for a mapper with the tree in one of its
slots, where reports bear their sources. -/
theorem interchangeable_unseen {t u : ElementMapper} (h : Interchangeable t u) (c : Context) :
    (∀ (r : Reading) (s : VirtualState),
      s.receiveAll ((c.fill t).contributions r) = s.receiveAll ((c.fill u).contributions r) ∧
      (c.fill t).reports r = (c.fill u).reports r) ∧
    ∀ (m : Mapper) (slot : Slot) (reading : Slot → Reading) (source : UInt32),
      (m.withSlot slot (c.fill t)).mapReadings reading source =
        (m.withSlot slot (c.fill u)).mapReadings reading source := by
  have heq : ∀ r, (c.fill t).contributions r = (c.fill u).contributions r :=
    c.contributions_fill h.contributions_eq
  refine ⟨fun r s => ⟨by rw [heq], by rw [ElementMapper.reports, heq, ElementMapper.reports]⟩, ?_⟩
  intro m slot reading source
  rw [mapReadings, mapReadings, m.contributions_withSlot slot heq]

/-- A tree that is nested too deep to be written down, and one that is not, for the same slot. -/
theorem interchangeable_unseen_flattened :
    let move : ElementMapper := .axis .x .both
    let press : ElementMapper := .key 30
    let t : ElementMapper := .invert (.compound [.invert move, .compound [press]])
    let u : ElementMapper := .compound [move, .invert press]
    let c : Context := .negative (.button ⟨0, by decide⟩) .here
    let m : Mapper := ⟨"", .empty, .disabled⟩
    let pad : PadState := { status := .ok, leftX := -20000 }
    Interchangeable t u ∧ (c.fill t).depth = 5 ∧ (c.fill u).depth = 4 ∧
      (c.fill t).reports (.stick (-20000)) = (c.fill u).reports (.stick (-20000)) ∧
      (c.fill u).reports (.stick (-20000)) = [.key 30 true] ∧
      (m.withSlot .stickLeftX (c.fill t)).mapState pad 0 =
        (m.withSlot .stickLeftX (c.fill u)).mapState pad 0 ∧
      ((m.withSlot .stickLeftX (c.fill u)).mapState pad 0).state.axis .x = 20000 := by
  intro move press t u c m pad
  have hmirrors : Interchangeable t
      (.compound [.invert (.invert move), .invert (.compound [press])]) :=
    (ElementMapper.Equation.invert_compound [.invert move, .compound [press]]).rewritten .here
  have hmove : Interchangeable (.compound [.invert (.invert move), .invert (.compound [press])])
      (.compound [move, .invert (.compound [press])]) :=
    (ElementMapper.Equation.invert_invert move).rewritten
      (.child [] .here [.invert (.compound [press])])
  have hpress : Interchangeable (.compound [move, .invert (.compound [press])]) u :=
    (ElementMapper.Equation.singleton press).rewritten (.child [move] (.invert .here) [])
  have htu : Interchangeable t u := .trans _ _ _ (.trans _ _ _ hmirrors hmove) hpress
  obtain ⟨htree, hmapper⟩ := interchangeable_unseen htu c
  exact ⟨htu, by decide, by decide, (htree _ .neutral).2, by decide,
    hmapper m .stickLeftX (Slot.reading pad) 0, by decide +kernel⟩

end Mapper

end VirtualPad
