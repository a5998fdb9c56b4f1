import VirtualPad.Proofs.ElementMapper.Leaves
import VirtualPad.Proofs.Event.Changes

/-!
# What a tree can move

The elements that a tree advertises are read off its leaves without any reading, while what it
contributes depends on the reading that passes through it. Both are about the same leaves
(`elements_eq`), so a contribution only ever goes to an element that the tree advertises
(`mem_targets_of_contribution`), and every other element stays as it is (`entry_receiveAll`).
-/

namespace VirtualPad

/-- The virtual element that a contribution goes to, if it goes to one. -/
def Contribution.element? : Contribution → Option Element
  | .axis a _ => some (.axis a)
  | .button b _ => some (.button b)
  | .pov _ _ => some .pov
  | .desktop _ => none

namespace ElementMapper

/-- The virtual element that a leaf drives, if it drives one. -/
def Leaf.element? : Leaf → Option Element
  | .axis a _ => some (.axis a)
  | .digitalAxis a _ => some (.axis a)
  | .button b => some (.button b)
  | .pov _ => some .pov
  | _ => none

theorem element?_contribution (l : Leaf) (r : Reading) :
    (l.contribution r).element? = l.element? := by
  cases l <;> rfl

mutual

theorem elements_eq (t : ElementMapper) : t.elements = t.leaves.filterMap Leaf.element? := by
  cases t with
  | invert t =>
    rw [elements, leaves]
    exact elements_eq t
  | split p n =>
    rw [elements, leaves, List.filterMap_append, elements_eq p, elements_eq n]
  | compound ts =>
    rw [elements, leaves]
    exact elementsAll_eq ts
  | _ => rfl

theorem elementsAll_eq (ts : List ElementMapper) :
    elementsAll ts = (leavesAll ts).filterMap Leaf.element? := by
  cases ts with
  | nil => rfl
  | cons t ts =>
    rw [elementsAll, leavesAll, List.filterMap_append, elements_eq t, elementsAll_eq ts]

end

theorem mem_targets {t : ElementMapper} {e : Element} : e ∈ t.targets ↔ e ∈ t.elements := by
  have hfold : ∀ (es seen : List Element),
      e ∈ es.foldl (fun seen e => if e ∈ seen then seen else seen ++ [e]) seen ↔
        e ∈ seen ∨ e ∈ es := by
    intro es
    induction es with
    | nil => simp
    | cons f es ih =>
      intro seen
      rw [List.foldl_cons, ih, List.mem_cons]
      by_cases hf : f ∈ seen
      · -- What was met before is not listed again.
        rw [if_pos hf]
        constructor
        · rintro (h | h)
          · exact .inl h
          · exact .inr (.inr h)
        · rintro (h | rfl | h)
          · exact .inl h
          · exact .inl hf
          · exact .inr h
      · rw [if_neg hf, List.mem_append, List.mem_singleton, or_assoc]
  rw [targets, hfold]
  exact or_iff_right (List.not_mem_nil)

theorem mem_targets_of_contribution {t : ElementMapper} {r : Reading} {c : Contribution}
    {e : Element} (hc : c ∈ t.contributions r) (he : c.element? = some e) : e ∈ t.targets := by
  obtain ⟨x, hx, rfl⟩ := mem_contributions.1 hc
  have hleaf : x.1 ∈ t.leaves := by
    rw [← served_fst t r]
    exact List.mem_map_of_mem hx
  rw [element?_contribution] at he
  rw [mem_targets, elements_eq]
  exact List.mem_filterMap.2 ⟨x.1, hleaf, he⟩

end ElementMapper

namespace VirtualState

theorem entry_receive {s : VirtualState} {c : Contribution} {e : Element}
    (h : c.element? ≠ some e) : (s.receive c).entry e = s.entry e := by
  cases c with
  | axis a amount =>
    cases e with
    | axis b =>
      have hne : b ≠ a := by
        rintro rfl
        exact h rfl
      simp [receive, entry, axis_addAxis, hne]
    | button b => rfl
    | pov => rfl
  | button b pressed =>
    cases e with
    | axis a => rfl
    | button c =>
      have hne : c ≠ b := by
        rintro rfl
        exact h rfl
      simp [receive, entry, button_mergeButton, hne]
    | pov => rfl
  | pov d pressed =>
    cases e with
    | axis a => rfl
    | button b => rfl
    | pov => exact absurd rfl h
  | desktop input => rfl

theorem entry_receiveAll {s : VirtualState} {cs : List Contribution} {e : Element}
    (h : ∀ c ∈ cs, c.element? ≠ some e) : (s.receiveAll cs).entry e = s.entry e := by
  induction cs generalizing s with
  | nil => rfl
  | cons c cs ih =>
    have hc := entry_receive (s := s) (h c List.mem_cons_self)
    have hcs := ih (s := s.receive c) fun d hd => h d (List.mem_cons_of_mem c hd)
    exact hcs.trans hc

theorem entry_receiveAll_contributions {t : ElementMapper} {e : Element} (h : e ∉ t.targets)
    (r : Reading) (s : VirtualState) :
    (s.receiveAll (t.contributions r)).entry e = s.entry e := by
  refine entry_receiveAll ?_
  intro c hc he
  exact h (ElementMapper.mem_targets_of_contribution hc he)

end VirtualState

end VirtualPad
