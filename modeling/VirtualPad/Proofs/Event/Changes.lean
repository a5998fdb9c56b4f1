import VirtualPad.Event.Basic

/-!
# What changed between two states

A state has one entry for each element, and an event carries one entry. `changes_eq` says which
entries the changes between two states are; replaying them on the earlier state gives the later one
(`replayAll_changes`).
-/

namespace VirtualPad

/-- Every element, in the order in which changes are reported. -/
def Element.all : List Element := Axis.all.map .axis ++ (Button.all.map .button ++ [.pov])

theorem Element.mem_all (e : Element) : e ∈ all := by
  cases e with
  | axis a => simp [all, a.mem_all]
  | button b => simp [all, Button.all]
  | pov => simp [all]

theorem Element.nodup_all : all.Nodup := by decide

namespace VirtualState

/-- The value of an element in a state, as an event carries it. -/
def entry (s : VirtualState) : Element → EventData
  | .axis a => .axis a (s.axis a)
  | .button b => .button b (s.button b)
  | .pov => .pov s.pov

/-- Bring a state up to date with an event. -/
def replay (s : VirtualState) : EventData → VirtualState
  | .axis a value => { s with axes := s.axes.set a value }
  | .button b pressed => { s with buttons := s.buttons.set b pressed b.isLt }
  | .pov pov => { s with pov }

def replayAll (s : VirtualState) (ds : List EventData) : VirtualState := ds.foldl replay s

@[simp] theorem element_entry (s : VirtualState) (e : Element) : (s.entry e).element = e := by
  cases e <;> rfl

theorem entry_axis_eq {s t : VirtualState} {a : Axis} :
    s.entry (.axis a) = t.entry (.axis a) ↔ s.axis a = t.axis a := by
  simp [entry]

theorem entry_button_eq {s t : VirtualState} {b : Button} :
    s.entry (.button b) = t.entry (.button b) ↔ s.button b = t.button b := by
  simp [entry]

theorem entry_pov_eq {s t : VirtualState} : s.entry .pov = t.entry .pov ↔ s.pov = t.pov := by
  simp [entry]

theorem ext_entry {s t : VirtualState} (h : ∀ e, s.entry e = t.entry e) : s = t := by
  refine ext_elements ?_ ?_ ?_
  · intro a
    exact entry_axis_eq.1 (h (.axis a))
  · intro b
    exact entry_button_eq.1 (h (.button b))
  · intro d
    rw [entry_pov_eq.1 (h .pov)]

/-! ## The changes are entries -/

theorem filterMap_unless {α : Type} (l : List α) (p : α → Prop) [DecidablePred p]
    (f : α → EventData) :
    (l.filterMap fun a => if p a then none else some (f a)) =
      (l.filter fun a => ¬ p a).map f := by
  induction l with
  | nil => rfl
  | cons a l ih =>
    by_cases h : p a
    · simp [h, ih]
    · simp [h, ih]

theorem changes_eq (before after : VirtualState) :
    before.changes after =
      (Element.all.filter fun e => ¬ after.entry e = before.entry e).map after.entry := by
  have hp : (if after.pov = before.pov then [] else [EventData.pov after.pov]) =
      ([Element.pov].filter fun e => ¬ after.entry e = before.entry e).map after.entry := by
    by_cases h : after.pov = before.pov
    · simp [entry, h]
    · simp [entry, h]
  rw [changes, filterMap_unless, filterMap_unless, hp, Element.all, List.filter_append,
    List.filter_append, List.filter_map, List.filter_map, List.map_append, List.map_append,
    List.map_map, List.map_map, List.append_assoc]
  simp [Function.comp_def, entry]

/-! ## Replaying -/

theorem entry_replay (s : VirtualState) (d : EventData) (e : Element) :
    (s.replay d).entry e = if d.element = e then d else s.entry e := by
  cases d with
  | axis a value =>
    cases e with
    | axis b =>
      by_cases h : a = b
      · subst h
        simp [replay, entry, EventData.element, VirtualState.axis]
      · have hv := PerAxis.get_set_of_ne s.axes (Ne.symm h) value
        simp [replay, entry, EventData.element, VirtualState.axis, h, hv]
    | button b => rfl
    | pov => rfl
  | button b pressed =>
    cases e with
    | axis a => rfl
    | button c =>
      by_cases h : b = c
      · subst h
        simp [replay, entry, EventData.element, VirtualState.button]
      · have hne : b.val ≠ c.val := fun hv => h (Fin.ext hv)
        simp [replay, entry, EventData.element, VirtualState.button, h, hne]
    | pov => rfl
  | pov pov =>
    cases e with
    | axis a => rfl
    | button b => rfl
    | pov => rfl

theorem replayAll_append (s : VirtualState) (ds es : List EventData) :
    s.replayAll (ds ++ es) = (s.replayAll ds).replayAll es := List.foldl_append

theorem entry_replayAll (s t : VirtualState) (es : List Element) (e : Element) :
    (s.replayAll (es.map t.entry)).entry e = if e ∈ es then t.entry e else s.entry e := by
  induction es generalizing s with
  | nil => rfl
  | cons f es ih =>
    have hr := entry_replay s (t.entry f) e
    rw [element_entry] at hr
    rw [List.map_cons, replayAll, List.foldl_cons, ← replayAll, ih, hr]
    by_cases hes : e ∈ es
    · rw [if_pos hes, if_pos (List.mem_cons_of_mem f hes)]
    · rw [if_neg hes]
      by_cases hf : f = e
      · subst hf
        simp
      · simp [hf, Ne.symm hf, hes]

theorem replayAll_changes (before after : VirtualState) :
    before.replayAll (before.changes after) = after := by
  refine ext_entry ?_
  intro e
  rw [changes_eq, entry_replayAll]
  by_cases h : after.entry e = before.entry e
  · rw [h, ite_self]
  · have hmem : e ∈ Element.all.filter fun e => ¬ after.entry e = before.entry e := by
      simp [e.mem_all, h]
    rw [if_pos hmem]

end VirtualState

end VirtualPad
