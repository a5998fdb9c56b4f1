import VirtualPad.Proofs.Language.Balance
import VirtualPad.Proofs.Language.Plain

/-!
# Texts that stand on their own

A text with matching parentheses and no comma outside of them is cut in the same way wherever it
stands: alone, or with a comma and further text behind it (`Standalone.ofText?_append_comma`). This
holds of texts that cannot be cut, too.

Commas are counted here and not scanned for: a comma is outside if as many parentheses have been
closed before it as were opened. Over the parameters of a phrase both numbers grow alike, so a comma
that is outside in the text behind a phrase is outside in the whole text.
-/

namespace VirtualPad.Language

/-- A comma with as many parentheses closed as opened before it. -/
def OuterComma (s : List Char) : Prop :=
  ∃ before after, s = before ++ ',' :: after ∧ before.count '(' = before.count ')'

/-- Something other than blanks, nested no deeper than a bound, and no comma outside parentheses. -/
structure Standalone (bound : Nat) (s : List Char) : Prop where
  content : ∃ c ∈ s, isBlank c = false
  nested : ∃ k ≤ bound, nesting? s = some k
  noComma : ¬OuterComma s

/-! ## Counting parentheses -/

theorem OuterComma.append {u v : List Char} (h : OuterComma v) (hu : u.count '(' = u.count ')') :
    OuterComma (u ++ v) := by
  obtain ⟨before, after, rfl, hcount⟩ := h
  refine ⟨u ++ before, after, (List.append_assoc _ _ _).symm, ?_⟩
  rw [List.count_append, List.count_append, hu, hcount]

theorem Plain.count_eq {a : List Char} (ha : Plain a) : a.count '(' = a.count ')' := by
  have hopen : '(' ∉ a := fun hmem => (ha.notParenthesis _ hmem).1 rfl
  have hclose : ')' ∉ a := fun hmem => (ha.notParenthesis _ hmem).2 rfl
  rw [List.count_eq_zero_of_not_mem hopen, List.count_eq_zero_of_not_mem hclose]

theorem Plain.outerComma {a : List Char} (ha : Plain a) (s : List Char) :
    OuterComma (a ++ ',' :: s) := ⟨a, s, rfl, ha.count_eq⟩

theorem Nested.count_eq {k : Nat} {s : List Char} (h : Nested k s) :
    s.count '(' = s.count ')' := by
  induction h with
  | nil => rfl
  | plain hopen hclose _ ih =>
    rw [List.count_cons_of_ne hopen, List.count_cons_of_ne hclose, ih]
  | group _ _ ihs iht =>
    simp only [List.count_cons, List.count_append, ihs, iht]
    simp
    omega

/-! ## Matching parentheses -/

theorem exists_splitClose? {d m k : Nat} {s : List Char} (h : nestingFrom (d + 1) m s = some k) :
    ∃ inside after, splitClose? d s = some (inside, after) := by
  fun_induction splitClose? d s generalizing m with
  | case1 d => cases h
  | case2 s => exact ⟨[], s, rfl⟩
  | case3 s d ih =>
    obtain ⟨i, a, hs⟩ := ih h
    exact ⟨')' :: i, a, by rw [hs]; rfl⟩
  | case4 d s ih =>
    obtain ⟨i, a, hs⟩ := ih h
    exact ⟨'(' :: i, a, by rw [hs]; rfl⟩
  | case5 d c s hclose hopen ih =>
    rw [nestingFrom_cons hopen hclose] at h
    obtain ⟨i, a, hs⟩ := ih h
    exact ⟨c :: i, a, by rw [hs]; rfl⟩

theorem nested_of_nesting? {s : List Char} {k : Nat} (h : nesting? s = some k) : Nested k s := by
  induction hn : s.length using Nat.strong_induction_on generalizing s k with
  | _ n ih =>
    subst hn
    cases s with
    | nil =>
      obtain rfl := Option.some.inj h
      exact .nil
    | cons c s =>
      by_cases hclose : c = ')'
      · subst hclose
        cases h
      · by_cases hopen : c = '('
        · subst hopen
          obtain ⟨inside, after, hcut⟩ := exists_splitClose? (d := 0) h
          obtain ⟨⟨i, -, hinside⟩, j, -, hafter⟩ := nesting?_inside hcut h
          have hs := splitClose?_eq_append hcut
          have hlength : s.length = inside.length + (after.length + 1) := by
            rw [hs, List.length_append, List.length_cons]
          have hgroup := Nested.group
            (ih inside.length (by rw [List.length_cons]; omega) hinside rfl)
            (ih after.length (by rw [List.length_cons]; omega) hafter rfl)
          rw [← hs] at hgroup
          obtain rfl := Option.some.inj (h.symm.trans (nesting?_eq_some hgroup))
          exact hgroup
        · rw [nesting?, nestingFrom_cons hopen hclose] at h
          exact .plain hopen hclose (ih s.length (by rw [List.length_cons]; omega) h rfl)

theorem Nested.of_plain_append {k : Nat} {a s : List Char} (ha : Plain a)
    (h : Nested k (a ++ s)) : Nested k s := by
  have hk := nesting?_eq_some h
  rw [nesting?, nestingFrom_plain_append ha.notParenthesis] at hk
  exact nested_of_nesting? hk

theorem Nested.exists_close {k : Nat} {s : List Char} (h : Nested k ('(' :: s)) :
    ∃ i inside after, Nested i inside ∧ s = inside ++ ')' :: after := by
  cases h with
  | plain hopen => exact absurd rfl hopen
  | group hinside _ => exact ⟨_, _, _, hinside, rfl⟩

/-! ## Cutting -/

theorem afterPhrase?_trimEnd (s : List Char) : afterPhrase? (trimEnd s) = afterPhrase? s := by
  cases s using fields_cases with
  | field _ ha => rw [afterPhrase?_plain ha, afterPhrase?_plain ha.trimEnd, trim_trimEnd]
  | delimiter a c s ha hc =>
    rw [trimEnd_append_cons (isBlank_of_isDelimiter hc), afterPhrase?_append_cons ha hc,
      afterPhrase?_append_cons ha hc, trim_trimEnd]

theorem splitClose?_trimEnd (d : Nat) (s : List Char) :
    splitClose? d (trimEnd s) = (splitClose? d s).map fun p => (p.1, trimEnd p.2) := by
  induction s using fields_induction generalizing d with
  | field a ha => rw [splitClose?_plain ha, splitClose?_plain ha.trimEnd]; rfl
  | delimiter a c s ha hc ih =>
    rw [trimEnd_append_cons (isBlank_of_isDelimiter hc), splitClose?_plain_append ha,
      splitClose?_plain_append ha, Option.map_map]
    rcases isDelimiter_iff.1 hc with rfl | rfl | rfl
    · simp [splitClose?, ih, Function.comp_def]
    · cases d with
      | zero => rfl
      | succ d => simp [splitClose?, ih, Function.comp_def]
    · simp [splitClose?, ih, Function.comp_def]

theorem ofText?_trim (s : List Char) : Phrase.ofText? (trim s) = Phrase.ofText? s := by
  cases s using fields_cases with
  | field _ ha =>
    have htrim : Plain (trim s) := ha.trimStart.trimEnd
    rw [ofText?_plain ha, ofText?_plain htrim, trim_trim]
  | delimiter a c s ha hc =>
    rw [trim_append_cons (isBlank_of_isDelimiter hc)]
    rcases isDelimiter_iff.1 hc with rfl | rfl | rfl
    · rw [ofText?_open ha, ofText?_open ha.trimStart, splitClose?_trimEnd, Option.bind_map]
      refine congrArg (Option.bind _) (funext fun p => ?_)
      simp only [Function.comp_apply, afterPhrase?_trimEnd, trim_trimStart]
    · rw [ofText?_close ha, ofText?_close ha.trimStart]
    · simp [ofText?_comma ha, ofText?_comma ha.trimStart]

theorem afterPhrase?_append_comma {s : List Char} (h : ¬OuterComma s) :
    (afterPhrase? s = none ∧ ∀ more, afterPhrase? (s ++ ',' :: more) = none) ∨
      (afterPhrase? s = some [] ∧
        ∀ more, trim more ≠ [] → afterPhrase? (s ++ ',' :: more) = some (trim more)) := by
  cases s using fields_cases with
  | field _ ha =>
    rw [afterPhrase?_plain ha]
    by_cases hblank : trim s = []
    · refine .inr ⟨if_pos hblank, fun more hmore => ?_⟩
      rw [afterPhrase?_append_cons (c := ',') ha rfl, if_pos ⟨hblank, rfl, hmore⟩]
    · refine .inl ⟨if_neg hblank, fun more => ?_⟩
      rw [afterPhrase?_append_cons (c := ',') ha rfl, if_neg fun hc => hblank hc.1]
  | delimiter a c s ha hc =>
    have hne : c ≠ ',' := by
      rintro rfl
      exact h (ha.outerComma s)
    refine .inl ⟨?_, fun more => ?_⟩
    · rw [afterPhrase?_append_cons ha hc, if_neg fun hcomma => hne hcomma.2.1]
    · rw [List.append_assoc, List.cons_append, afterPhrase?_append_cons ha hc,
        if_neg fun hcomma => hne hcomma.2.1]

/-- Where the text stands alone nothing follows its phrase, and with a comma and further text behind
it the same phrase is followed by that text. If there is no phrase it does not become one. -/
theorem Standalone.ofText?_append_comma {bound : Nat} {s : List Char} (h : Standalone bound s) :
    (Phrase.ofText? s = none ∧ ∀ more, trim more ≠ [] → Phrase.ofText? (s ++ ',' :: more) = none) ∨
      ∃ name params, Phrase.ofText? s = some ⟨name, params, []⟩ ∧ ∀ more, trim more ≠ [] →
        Phrase.ofText? (s ++ ',' :: more) = some ⟨name, params, trim more⟩ := by
  obtain ⟨-, ⟨k, -, hk⟩, hcomma⟩ := h
  cases s using fields_cases with
  | field _ ha =>
    refine .inr ⟨trim s, [], ofText?_plain ha, fun more hmore => ?_⟩
    rw [ofText?_comma ha, if_neg hmore]
  | delimiter a c s ha hc =>
    simp only [List.append_assoc, List.cons_append]
    rcases isDelimiter_iff.1 hc with rfl | rfl | rfl
    · have hopen := (nested_of_nesting? hk).of_plain_append ha
      obtain ⟨i, inside, after, hinside, rfl⟩ := hopen.exists_close
      have hafter : ¬OuterComma after := by
        intro h
        have hphrase := (h.append hinside.parenthesized.count_eq).append ha.count_eq
        exact hcomma (by simpa using hphrase)
      simp only [ofText?_open ha, List.append_assoc, List.cons_append, splitClose?_nested hinside,
        Option.bind_some]
      rcases afterPhrase?_append_comma hafter with ⟨halone, hwith⟩ | ⟨halone, hwith⟩
      · exact .inl ⟨by rw [halone]; rfl, fun more _ => by rw [hwith]; rfl⟩
      · by_cases hparams : trim inside = []
        · refine .inl ⟨?_, fun more hmore => ?_⟩
          · rw [halone, Option.bind_some, if_pos hparams]
          · rw [hwith more hmore, Option.bind_some, if_pos hparams]
        · refine .inr ⟨trim a, trim inside, ?_, fun more hmore => ?_⟩
          · rw [halone, Option.bind_some, if_neg hparams]
          · rw [hwith more hmore, Option.bind_some, if_neg hparams]
    · exact .inl ⟨ofText?_close ha s, fun more _ => ofText?_close ha _⟩
    · exact absurd (ha.outerComma s) hcomma

end VirtualPad.Language
