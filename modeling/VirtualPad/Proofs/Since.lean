import Mathlib.Data.List.Basic

/-!
# What has held since

Something that a run brought about and that nothing has undone since. Whether it still holds after a
further call depends on that call alone (`since_concat`), so a flag or a time that a state keeps is
shown to be right one call at a time.
-/

namespace VirtualPad

variable {α : Type}

/-- Some call of a run did something, and no call since then has undone it. Both are said of a call
and the calls before it. -/
def Since (done undone : List α → α → Prop) (calls : List α) : Prop :=
  ∃ before x after, calls = before ++ x :: after ∧ done before x ∧
    ∀ during y rest, after = during ++ y :: rest → ¬undone (before ++ x :: during) y

variable {done undone : List α → α → Prop}

theorem not_since_nil : ¬Since done undone [] := by
  rintro ⟨before, x, after, h, -⟩
  simp at h

theorem since_concat (calls : List α) (x : α) :
    Since done undone (calls ++ [x]) ↔
      done calls x ∨ (Since done undone calls ∧ ¬undone calls x) := by
  constructor
  · rintro ⟨before, y, after, h, hdone, hafter⟩
    rcases after.eq_nil_or_concat' with rfl | ⟨after, z, rfl⟩
    · obtain ⟨rfl, hlast⟩ := List.append_inj' h rfl
      obtain rfl := (List.cons.inj hlast).1
      exact .inl hdone
    · rw [← List.cons_append, ← List.append_assoc] at h
      obtain ⟨rfl, hlast⟩ := List.append_inj' h rfl
      obtain rfl := (List.cons.inj hlast).1
      refine .inr ⟨⟨before, y, after, rfl, hdone, fun during w rest hw => ?_⟩,
        hafter after x [] rfl⟩
      exact hafter during w (rest ++ [x]) (by rw [hw, List.append_assoc, List.cons_append])
  · rintro (hdone | ⟨⟨before, y, after, rfl, hdone, hafter⟩, hx⟩)
    · exact ⟨calls, x, [], rfl, hdone, fun during w rest hw => by simp at hw⟩
    · refine ⟨before, y, after ++ [x], by simp, hdone, fun during w rest hw => ?_⟩
      -- What might undo it is the last call or one of those before.
      rcases rest.eq_nil_or_concat' with rfl | ⟨rest, z, rfl⟩
      · obtain ⟨rfl, hlast⟩ := List.append_inj' hw rfl
        obtain rfl := (List.cons.inj hlast).1
        exact hx
      · rw [← List.cons_append, ← List.append_assoc] at hw
        exact hafter during w rest (List.append_inj' hw rfl).1

end VirtualPad
