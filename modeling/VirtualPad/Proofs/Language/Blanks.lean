import Mathlib.Data.List.TakeWhile
import VirtualPad.Language.Phrase

/-!
# Blanks

What trimming takes away is a run of blanks at either end (`exists_trim`), and such runs are all
that it takes away, however many times one trims and in whatever order. A delimiter stops it:
`trim_append_cons` trims the text before a delimiter at its front and the text behind it at its end.
-/

namespace VirtualPad.Language

theorem trimStart_append_of_blank {l : List Char} (hl : ∀ c ∈ l, isBlank c = true)
    (s : List Char) : trimStart (l ++ s) = trimStart s := List.dropWhile_append_of_pos hl

theorem trimEnd_append_of_blank {r : List Char} (hr : ∀ c ∈ r, isBlank c = true)
    (s : List Char) : trimEnd (s ++ r) = trimEnd s := by
  have hreverse : ∀ c ∈ r.reverse, isBlank c = true := fun c hc => hr c (List.mem_reverse.1 hc)
  rw [trimEnd, List.reverse_append, List.dropWhile_append_of_pos hreverse, trimEnd]

theorem exists_trimStart (s : List Char) :
    ∃ l, (∀ c ∈ l, isBlank c = true) ∧ s = l ++ trimStart s :=
  ⟨s.takeWhile isBlank, fun _ hc => List.mem_takeWhile_imp hc,
    List.takeWhile_append_dropWhile.symm⟩

theorem exists_trimEnd (s : List Char) :
    ∃ r, (∀ c ∈ r, isBlank c = true) ∧ s = trimEnd s ++ r := by
  obtain ⟨l, hl, hs⟩ := exists_trimStart s.reverse
  refine ⟨l.reverse, fun c hc => hl c (List.mem_reverse.1 hc), ?_⟩
  rw [trimEnd, ← List.reverse_append, ← trimStart, ← hs, List.reverse_reverse]

theorem trim_append_of_blank_left {l : List Char} (hl : ∀ c ∈ l, isBlank c = true)
    (s : List Char) : trim (l ++ s) = trim s := by
  rw [trim, trimStart_append_of_blank hl, trim]

theorem trim_append_of_blank_right {r : List Char} (hr : ∀ c ∈ r, isBlank c = true)
    (s : List Char) : trim (s ++ r) = trim s := by
  cases hs : trimStart s with
  | nil =>
    have hblank : ∀ c ∈ s, isBlank c = true := List.dropWhile_eq_nil_iff.1 hs
    have hr' := trimStart_append_of_blank hr []
    rw [List.append_nil] at hr'
    rw [trim, trimStart_append_of_blank hblank, hr', trim, hs]
    rfl
  | cons c core =>
    have happend : trimStart (s ++ r) = trimStart s ++ r := by
      rw [trimStart, List.dropWhile_append, ← trimStart, hs]
      rfl
    rw [trim, happend, trimEnd_append_of_blank hr, trim]

theorem exists_trim (s : List Char) :
    ∃ l r, (∀ c ∈ l, isBlank c = true) ∧ (∀ c ∈ r, isBlank c = true) ∧ s = l ++ trim s ++ r := by
  obtain ⟨l, hl, hs⟩ := exists_trimStart s
  obtain ⟨r, hr, hs'⟩ := exists_trimEnd (trimStart s)
  refine ⟨l, r, hl, hr, ?_⟩
  rw [List.append_assoc, trim, ← hs', ← hs]

@[simp] theorem trim_trimStart (s : List Char) : trim (trimStart s) = trim s := by
  obtain ⟨l, hl, hs⟩ := exists_trimStart s
  conv => rhs; rw [hs]
  rw [trim_append_of_blank_left hl]

@[simp] theorem trim_trimEnd (s : List Char) : trim (trimEnd s) = trim s := by
  obtain ⟨r, hr, hs⟩ := exists_trimEnd s
  conv => rhs; rw [hs]
  rw [trim_append_of_blank_right hr]

@[simp] theorem trim_trim (s : List Char) : trim (trim s) = trim s := by
  have h : trim (trimEnd (trimStart s)) = trim s := by rw [trim_trimEnd, trim_trimStart]
  exact h

theorem trim_eq_nil_iff {s : List Char} : trim s = [] ↔ ∀ c ∈ s, isBlank c = true := by
  constructor
  · intro h
    obtain ⟨l, r, hl, hr, hs⟩ := exists_trim s
    rw [h, List.append_nil] at hs
    rw [hs]
    exact List.forall_mem_append.2 ⟨hl, hr⟩
  · intro h
    rw [trim, show trimStart s = [] from List.dropWhile_eq_nil_iff.2 h]
    rfl

theorem trimStart_eq_nil_iff {s : List Char} : trimStart s = [] ↔ trim s = [] := by
  rw [trim_eq_nil_iff, trimStart, List.dropWhile_eq_nil_iff]

theorem isDelimiter_iff {c : Char} : isDelimiter c = true ↔ c = '(' ∨ c = ')' ∨ c = ',' := by
  simp [isDelimiter, or_assoc]

theorem isBlank_of_isDelimiter {c : Char} (h : isDelimiter c = true) : isBlank c = false := by
  rcases isDelimiter_iff.1 h with rfl | rfl | rfl <;> rfl

theorem trimStart_append_cons {c : Char} (hc : isBlank c = false) (a s : List Char) :
    trimStart (a ++ c :: s) = trimStart a ++ c :: s := by
  induction a with
  | nil => exact List.dropWhile_cons_of_neg (by simp [hc])
  | cons b a ih =>
    cases hb : isBlank b with
    | true =>
      simp only [trimStart, List.cons_append, List.dropWhile_cons_of_pos hb] at ih ⊢
      exact ih
    | false =>
      have hb : ¬isBlank b = true := by simp [hb]
      simp only [trimStart, List.cons_append, List.dropWhile_cons_of_neg hb]

theorem trimEnd_append_cons {c : Char} (hc : isBlank c = false) (a s : List Char) :
    trimEnd (a ++ c :: s) = a ++ c :: trimEnd s := by
  have h := trimStart_append_cons hc s.reverse a.reverse
  rw [trimStart] at h
  have hreverse : (a ++ c :: s).reverse = s.reverse ++ c :: a.reverse := by simp
  rw [trimEnd, hreverse, h, trimEnd, trimStart]
  simp

theorem trim_append_cons {c : Char} (hc : isBlank c = false) (a s : List Char) :
    trim (a ++ c :: s) = trimStart a ++ c :: trimEnd s := by
  rw [trim, trimStart_append_cons hc, trimEnd_append_cons hc]

end VirtualPad.Language
