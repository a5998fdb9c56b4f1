import VirtualPad.ElementMapper.Parser
import VirtualPad.Proofs.Language.Balance

/-!
# Trees that are read keep to the limits

Every tree that the reader accepts has one to eight children under each compound node and is nested
no deeper than the parentheses of its text, hence no deeper than the limit (`fits_of_parse`).

Only the nesting of the whole text is checked. That it bounds the tree is an induction along the
reader's own recursion: a child stands between the parentheses of its parent, and whatever is
written without parentheses is the null mapper, which has no depth.
-/

namespace VirtualPad.ElementMapper

open VirtualPad.Language

/-- A tree keeps to the child limit and is nested no deeper than a bound. -/
structure Fits (t : ElementMapper) (k : Nat) : Prop where
  keepsLimit : t.KeepsLimit
  depth_le : t.depth ≤ k

theorem Fits.mono {t : ElementMapper} {j k : Nat} (h : t.Fits j) (hjk : j ≤ k) : t.Fits k :=
  ⟨h.keepsLimit, Nat.le_trans h.depth_le hjk⟩

theorem fits_null : Fits .null 0 := ⟨by simp [KeepsLimit], by simp [depth]⟩

/-! ## Leaves -/

theorem leafOfParams_fits {form : MapperForm} {params : List Char} {t : ElementMapper}
    (h : leafOfParams form params = .ok t) : t.Fits 1 := by
  unfold leafOfParams buttonOfParams at h
  cases form with
  | axis | digitalAxis | mouseAxis =>
    obtain ⟨⟨a, d⟩, -, rfl⟩ := map_eq_ok.1 h
    exact ⟨by simp [KeepsLimit], by simp [depth]⟩
  | button | keyboard | mouseButton | pov =>
    obtain ⟨x, -, rfl⟩ := map_eq_ok.1 h
    exact ⟨by simp [KeepsLimit], by simp [depth]⟩
  | _ =>
    dsimp only at h
    split at h
    · obtain rfl := Except.ok.inj h
      exact fits_null.mono (Nat.zero_le 1)
    · cases h

theorem leafOfParams_nil {form : MapperForm} {t : ElementMapper}
    (h : leafOfParams form [] = .ok t) : t = .null := by
  have hbutton : decimal? [] = none := rfl
  have hkey : keyOfParams? [] = none := by decide +kernel
  have hmouse : mouseButtonOfText? [] = none := by decide +kernel
  have hpov : povOfText? [] = none := by decide +kernel
  have haxis : ∀ {α : Type} (axisOf? : List Char → Option α),
      axisParams axisOf? [] = .error (.invalid .missingAxis) := fun _ => rfl
  unfold leafOfParams buttonOfParams at h
  cases form with
  | button =>
    rw [hbutton] at h
    cases h
  | keyboard =>
    rw [hkey] at h
    cases h
  | mouseButton =>
    rw [hmouse] at h
    cases h
  | pov =>
    rw [hpov] at h
    cases h
  | axis | digitalAxis | mouseAxis =>
    rw [haxis] at h
    cases h
  | _ => exact (Except.ok.inj h).symm

/-! ## Cutting -/

theorem cut_eq_ok_inv {s : List Char} {c : Cut s} (h : cut s = .ok c) :
    ∃ p, Phrase.ofText? s = some p ∧ c.params = p.params ∧ c.rest = p.rest := by
  unfold cut at h
  split at h
  · cases h
  · rename_i p hp
    split at h
    · cases h
    · split at h
      · cases h
      · obtain rfl := Except.ok.inj h
        exact ⟨p, hp, rfl, rfl⟩

/-- If the parameters of a phrase bound the tree that is read from them, the text bounds it. -/
theorem fits_of_cut {s : List Char} {c : Cut s} {t : ElementMapper} {k : Nat} (h : cut s = .ok c)
    (hn : nesting? s = some k)
    (ht : ∀ j, nesting? c.params = some j → t.Fits (j + 1) ∧ (c.params = [] → t.Fits 0)) :
    t.Fits k ∧ ∃ j ≤ k, nesting? c.rest = some j := by
  obtain ⟨p, hp, hparams, hrest⟩ := cut_eq_ok_inv h
  obtain ⟨hinside, hafter⟩ := Phrase.ofText?_nesting hp hn
  rw [← hparams] at hinside
  rw [← hrest] at hafter
  refine ⟨?_, hafter⟩
  rcases hinside with hnil | ⟨j, hj, hinside⟩
  · have hfits := (ht 0 (by rw [hnil]; rfl)).2 hnil
    exact hfits.mono (Nat.zero_le k)
  · exact (ht j hinside).1.mono hj

theorem Cut.ne_nil {s : List Char} (c : Cut s) : s ≠ [] := by
  rintro rfl
  exact Nat.not_lt_zero _ c.rest_lt

/-! ## Reading trees -/

mutual

theorem ofParams_fits {form : MapperForm} {params : List Char} {t : ElementMapper} {k : Nat}
    (h : ofParams form params = .ok t) (hn : nesting? params = some k) :
    t.Fits (k + 1) ∧ (params = [] → t.Fits 0) := by
  cases form with
  | invert =>
    rw [ofParams] at h
    obtain ⟨c, hc, h⟩ := bind_eq_ok.1 h
    obtain ⟨child, hchild, h⟩ := bind_eq_ok.1 h
    obtain ⟨-, -, h⟩ := bind_eq_ok.1 h
    obtain rfl := Except.ok.inj h
    rw [inPlace_eq_ok] at hc hchild
    have hlt := c.params_lt
    obtain ⟨hfits, -⟩ := fits_of_cut hc hn fun j hj => ofParams_fits hchild hj
    have hk := hfits.depth_le
    refine ⟨⟨?_, ?_⟩, fun hnil => absurd hnil c.ne_nil⟩
    · rw [KeepsLimit]
      exact hfits.keepsLimit
    · rw [depth]
      omega
  | split =>
    rw [ofParams] at h
    obtain ⟨c, hc, h⟩ := bind_eq_ok.1 h
    obtain ⟨positive, hpositive, h⟩ := bind_eq_ok.1 h
    obtain ⟨d, hd, h⟩ := bind_eq_ok.1 h
    obtain ⟨negative, hnegative, h⟩ := bind_eq_ok.1 h
    obtain ⟨-, -, h⟩ := bind_eq_ok.1 h
    obtain rfl := Except.ok.inj h
    rw [inPlace_eq_ok] at hc hpositive hd hnegative
    have hparams := c.params_lt
    have hrest := c.rest_lt
    have hparams' := d.params_lt
    obtain ⟨hp, j, hj, hnrest⟩ := fits_of_cut hc hn fun j hj => ofParams_fits hpositive hj
    obtain ⟨hq, -⟩ := fits_of_cut hd hnrest fun j hj => ofParams_fits hnegative hj
    have hpk := hp.depth_le
    have hqk := hq.depth_le
    refine ⟨⟨?_, ?_⟩, fun hnil => absurd hnil c.ne_nil⟩
    · rw [KeepsLimit]
      exact ⟨hp.keepsLimit, hq.keepsLimit⟩
    · rw [depth]
      omega
  | compound =>
    rw [ofParams] at h
    obtain ⟨ts, hts, rfl⟩ := map_eq_ok.1 h
    obtain ⟨hne, hlength, hlimit, hkeep, hdepth⟩ := children_fit hts hn
    refine ⟨⟨?_, ?_⟩, fun hnil => absurd hnil hne⟩
    · rw [KeepsLimit]
      exact ⟨hlength, by omega, hkeep⟩
    · rw [depth]
      omega
  | _ =>
    rw [ofParams] at h
    · refine ⟨(leafOfParams_fits h).mono (Nat.le_add_left 1 k), ?_⟩
      rintro rfl
      rw [leafOfParams_nil h]
      exact fits_null
    all_goals simp
termination_by 2 * params.length + 1

theorem children_fit {number : Nat} {s : List Char} {ts : List ElementMapper} {k : Nat}
    (h : children number s = .ok ts) (hn : nesting? s = some k) :
    s ≠ [] ∧ 1 ≤ ts.length ∧ number + ts.length ≤ childLimit + 1 ∧ KeepLimit ts ∧
      depthAll ts ≤ k := by
  rw [children] at h
  split at h
  · cases h
  · rename_i hnumber
    obtain ⟨c, hc, h⟩ := bind_eq_ok.1 h
    obtain ⟨child, hchild, h⟩ := bind_eq_ok.1 h
    rw [inPlace_eq_ok] at hc hchild
    have hparams := c.params_lt
    have hrest := c.rest_lt
    obtain ⟨hfits, j, hj, hnrest⟩ := fits_of_cut hc hn fun j hj => ofParams_fits hchild hj
    have hk := hfits.depth_le
    split at h
    · obtain rfl := Except.ok.inj h
      refine ⟨c.ne_nil, Nat.le_refl _, ?_, ?_, ?_⟩
      · rw [List.length_singleton]
        omega
      · rw [KeepLimit, KeepLimit]
        exact ⟨hfits.keepsLimit, trivial⟩
      · rw [depthAll, depthAll]
        omega
    · obtain ⟨more, hmore, h⟩ := bind_eq_ok.1 h
      obtain rfl := Except.ok.inj h
      obtain ⟨-, -, hlength, hkeep, hdepth⟩ := children_fit hmore hnrest
      refine ⟨c.ne_nil, ?_, ?_, ?_, ?_⟩
      · rw [List.length_cons]
        omega
      · rw [List.length_cons]
        omega
      · rw [KeepLimit]
        exact ⟨hfits.keepsLimit, hkeep⟩
      · rw [depthAll]
        omega
termination_by 2 * s.length

end

/-- A tree that is read keeps to the child limit and is nested no deeper than its text, which is
nested no deeper than the limit. -/
theorem fits_of_parse {text : String} {t : ElementMapper} (h : parse text = .ok t) :
    ∃ k, nesting? text.toList = some k ∧ k ≤ nestingLimit ∧ t.Fits k := by
  rw [parse, ofChars] at h
  split at h
  · cases h
  · rename_i k hn
    split at h
    · cases h
    · rename_i hk
      split at h
      · cases h
      · rename_i mapper rest hfirst
        split at h
        · obtain rfl := Except.ok.inj h
          rw [first] at hfirst
          obtain ⟨c, hc, hfirst⟩ := bind_eq_ok.1 hfirst
          obtain ⟨mapper', hmapper, hfirst⟩ := bind_eq_ok.1 hfirst
          obtain ⟨rfl, -⟩ := Prod.mk.inj (Except.ok.inj hfirst)
          have hfits := (fits_of_cut hc hn fun j hj => ofParams_fits hmapper hj).1
          exact ⟨k, hn, Nat.not_lt.1 hk, hfits⟩
        · cases h

end VirtualPad.ElementMapper
