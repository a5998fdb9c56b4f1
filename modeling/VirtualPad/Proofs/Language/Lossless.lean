import VirtualPad.Proofs.ElementMapper.Limits
import VirtualPad.Proofs.Language.Commas
import VirtualPad.Proofs.Language.Respaced
import VirtualPad.Proofs.Language.Standalone

/-!
# Cuts lose nothing

A text is cut into a type name, its parameters and what follows, and a parameter list into its first
parameter and the others. Put together again, with the parentheses and the comma that the cut took
away, the pieces are the text without some of its blanks: those next to delimiters and at the ends
(`Phrase.lossless`, `Parameter.lossless`).

With the parentheses of a text those of each piece match. A piece is shorter than the text, so no
text can be cut for ever (`wellFounded_cutFrom`).
-/

namespace VirtualPad.Language

/-- The parentheses of a text match. -/
def Balanced (s : List Char) : Prop := ∃ k, Nested k s

theorem balanced_of_nesting? {s : List Char} (h : ∃ k, nesting? s = some k) : Balanced s := by
  obtain ⟨k, hk⟩ := h
  exact ⟨k, nested_of_nesting? hk⟩

/-! ## Texts with more blanks -/

/-- The second text has further blanks, next to delimiters or at its ends. -/
def Spaced : List Char → List Char → Prop := Relation.ReflTransGen BlankInserted

namespace Spaced

variable {a b s t : List Char}

theorem blanks_append {l : List Char} (hl : ∀ c ∈ l, isBlank c = true) (s : List Char) :
    Spaced s (l ++ s) := by
  induction l with
  | nil => exact .refl
  | cons b l ih =>
    obtain ⟨hb, hl⟩ := List.forall_mem_cons.1 hl
    exact (ih hl).tail (.insert [] (l ++ s) hb (.inl (by simp)))

theorem append_blanks {r : List Char} (hr : ∀ c ∈ r, isBlank c = true) (s : List Char) :
    Spaced s (s ++ r) := by
  induction r generalizing s with
  | nil =>
    rw [List.append_nil]
    exact .refl
  | cons b r ih =>
    obtain ⟨hb, hr⟩ := List.forall_mem_cons.1 hr
    have hlast : BlankInserted s (s ++ [b]) := by
      have h := BlankInserted.insert s [] hb (.inr (by simp))
      rwa [List.append_nil] at h
    have hmore := ih hr (s ++ [b])
    rw [List.append_assoc] at hmore
    exact Relation.ReflTransGen.head hlast hmore

theorem of_trim (s : List Char) : Spaced (trim s) s := by
  obtain ⟨l, r, hl, hr, hs⟩ := exists_trim s
  have hleft := blanks_append hl (trim s)
  have hright := append_blanks hr (l ++ trim s)
  rw [← hs] at hright
  exact hleft.trans hright

theorem append_cons {c : Char} (hc : isDelimiter c = true) (ha : Spaced a b) (hs : Spaced s t) :
    Spaced (a ++ c :: s) (b ++ c :: t) := by
  have hfront : Spaced (a ++ c :: s) (b ++ c :: s) := by
    refine ha.lift (· ++ c :: s) ?_
    rintro _ _ ⟨before, after, hb, hbeside⟩
    have h := BlankInserted.insert before (after ++ c :: s) hb
      (hbeside.imp_right fun hhead d hd => ?_)
    · simpa [Function.onFun] using h
    · cases after with
      | nil =>
        obtain rfl := Option.some.inj hd
        exact hc
      | cons x after => exact hhead d hd
  have hbehind : Spaced (b ++ c :: s) (b ++ c :: t) := by
    refine hs.lift (b ++ c :: ·) ?_
    rintro _ _ ⟨before, after, hb, hbeside⟩
    have h := BlankInserted.insert (b ++ c :: before) after hb
      (hbeside.imp_left fun hlast d hd => ?_)
    · simpa [Function.onFun] using h
    · rw [List.getLast?_append, List.getLast?_cons] at hd
      cases hend : before.getLast? with
      | none =>
        rw [hend] at hd
        obtain rfl := Option.some.inj hd
        exact hc
      | some e =>
        rw [hend] at hd
        obtain rfl := Option.some.inj hd
        exact hlast _ hend
  exact hfront.trans hbehind

end Spaced

/-! ## Putting pieces together -/

/-- A text behind a comma, or nothing at all. -/
def behindComma (rest : List Char) : List Char := if rest = [] then [] else ',' :: rest

/-- A phrase and what follows it, without blanks in between. -/
def Phrase.text (p : Phrase) : List Char :=
  p.name ++ (if p.params = [] then [] else '(' :: p.params ++ [')']) ++ behindComma p.rest

/-- A parameter and those that follow it, without blanks in between. -/
def Parameter.text (q : Parameter) : List Char := q.first ++ behindComma q.rest

theorem spaced_afterPhrase? {s rest : List Char} (h : afterPhrase? s = some rest) :
    Spaced (behindComma rest) s := by
  cases s using fields_cases with
  | field _ ha =>
    rw [afterPhrase?_plain ha] at h
    split at h
    · rename_i hblank
      obtain rfl := Option.some.inj h
      have hs := Spaced.of_trim s
      rwa [hblank] at hs
    · cases h
  | delimiter a c s ha hc =>
    rw [afterPhrase?_append_cons ha hc] at h
    split at h
    · rename_i hcomma
      obtain ⟨hblank, rfl, hmore⟩ := hcomma
      obtain rfl := Option.some.inj h
      have hs := (Spaced.of_trim a).append_cons hc (.of_trim s)
      rw [hblank] at hs
      rwa [behindComma, if_neg hmore]
    · cases h

theorem Phrase.spaced_text {s : List Char} {p : Phrase} (h : ofText? s = some p) :
    Plain p.name ∧ Spaced p.text s := by
  cases s using fields_cases with
  | field _ ha =>
    rw [ofText?_plain ha] at h
    obtain rfl := Option.some.inj h
    exact ⟨ha.trimStart.trimEnd, by simpa [text, behindComma] using Spaced.of_trim s⟩
  | delimiter a c s ha hc =>
    rcases isDelimiter_iff.1 hc with rfl | rfl | rfl
    · rw [ofText?_open ha] at h
      obtain ⟨⟨inside, after⟩, hcut, h⟩ := Option.bind_eq_some_iff.1 h
      obtain ⟨rest, hafter, h⟩ := Option.bind_eq_some_iff.1 h
      split at h
      · cases h
      · rename_i hparams
        obtain rfl := Option.some.inj h
        have hs : s = inside ++ ')' :: after := splitClose?_eq_append hcut
        have hinside := (Spaced.of_trim inside).append_cons (c := ')') rfl
          (spaced_afterPhrase? hafter)
        have hall := (Spaced.of_trim a).append_cons hc hinside
        rw [← hs] at hall
        refine ⟨ha.trimStart.trimEnd, ?_⟩
        rw [text, if_neg hparams]
        simpa using hall
    · rw [ofText?_close ha] at h
      cases h
    · rw [ofText?_comma ha] at h
      split at h
      · cases h
      · rename_i hmore
        obtain rfl := Option.some.inj h
        have hall := (Spaced.of_trim a).append_cons hc (.of_trim s)
        refine ⟨ha.trimStart.trimEnd, ?_⟩
        rw [text, behindComma, if_neg hmore]
        simpa using hall

/-! ## What a cut keeps -/

/-- What is kept of a text that is cut into a phrase and what follows it. -/
structure Phrase.Lossless (p : Phrase) (s : List Char) : Prop where
  name : Plain p.name
  text : Spaced p.text s
  params : Balanced p.params
  rest : Balanced p.rest
  params_lt : p.params ≠ [] → p.params.length < s.length
  rest_lt : p.rest ≠ [] → p.rest.length < s.length

/-- What is kept of a parameter list that is cut behind its first parameter. -/
structure Parameter.Lossless (q : Parameter) (s : List Char) : Prop where
  first : Single q.first
  text : Spaced q.text s
  first_balanced : Balanced q.first
  rest : Balanced q.rest
  first_lt : q.first.length < s.length
  rest_lt : q.rest.length < s.length

theorem Phrase.lossless {s : List Char} {p : Phrase} (hs : Balanced s) (h : ofText? s = some p) :
    p.Lossless s := by
  obtain ⟨k, hk⟩ := hs
  have hn := nesting?_eq_some hk
  obtain ⟨hname, htext⟩ := spaced_text h
  obtain ⟨-, -, hparams, hrest⟩ := ofText?_lengths h
  obtain ⟨-, j, -, hj⟩ := ofText?_nesting h hn
  exact ⟨hname, htext, balanced_of_nesting? (exists_nesting?_params h hn),
    ⟨j, nested_of_nesting? hj⟩, hparams, hrest⟩

theorem exists_nestingFrom {d : Nat} {s f : List Char} (h : splitComma? d s = some (f, none))
    (m : Nat) : ∃ k, nestingFrom d m s = some k := by
  fun_induction splitComma? d s generalizing m f with
  | case1 => exact ⟨m, rfl⟩
  | case2 d hd => cases h
  | case3 d s ih =>
    obtain ⟨first, hs, -⟩ := exists_of_map_cons h
    exact ih hs _
  | case4 s => cases h
  | case5 s d ih =>
    obtain ⟨first, hs, -⟩ := exists_of_map_cons h
    exact ih hs m
  | case6 s => cases h
  | case7 d s hd ih =>
    obtain ⟨first, hs, -⟩ := exists_of_map_cons h
    exact ih hs m
  | case8 d c s hopen hclose hcomma ih =>
    obtain ⟨first, hs, -⟩ := exists_of_map_cons h
    rw [nestingFrom_cons hopen hclose]
    exact ih hs m

theorem Single.balanced {s : List Char} (h : Single s) : Balanced s :=
  balanced_of_nesting? (exists_nestingFrom h 0)

theorem splitComma?_cut {f : List Char} (hf : Single f) (t : List Char) :
    splitComma? 0 (f ++ ',' :: t) = some (f, some t) := by
  rw [splitComma?_append hf]
  simp [splitComma?]

theorem Single.trim {s : List Char} (h : Single s) : Single (trim s) := by
  obtain ⟨k, hk⟩ := h.balanced
  have hn : nesting? (Language.trim s) = some k := by rw [nesting?_trim, nesting?_eq_some hk]
  rcases single_or_cut hn with hs | ⟨f, t, hcut, hf⟩
  · exact hs
  · -- A comma within the trimmed text would be one in the text.
    obtain ⟨l, r, hl, -, hs⟩ := exists_trim s
    have hcomma := splitComma?_cut ((plain_of_blank hl).single.append hf) (t ++ r)
    have heq : l ++ f ++ ',' :: (t ++ r) = s := by
      rw [hs, hcut]
      simp
    rw [heq, show splitComma? 0 s = some (s, none) from h] at hcomma
    cases hcomma

theorem Parameter.lossless {s : List Char} {q : Parameter} (hs : Balanced s)
    (h : ofText? s = some q) (hrest : q.rest ≠ []) : q.Lossless s := by
  obtain ⟨k, hk⟩ := hs
  have hn := nesting?_eq_some hk
  unfold ofText? at h
  rcases single_or_cut hn with hsingle | ⟨f, t, rfl, hf⟩
  · rw [show splitComma? 0 s = some (s, none) from hsingle] at h
    obtain rfl := Option.some.inj h
    exact absurd rfl hrest
  · rw [splitComma?_cut hf] at h
    dsimp only at h
    split at h
    · cases h
    · rename_i hmore
      obtain rfl := Option.some.inj h
      obtain ⟨j, hj⟩ := hf.balanced
      have ht : nestingFrom 0 (max 0 (0 + j)) t = some k := by
        rw [nesting?, nestingFrom_append hj 0 0 (Nat.le_refl 0)] at hn
        exact hn
      obtain ⟨i, -, hi⟩ := nestingFrom_of_le ht (Nat.zero_le _)
      have htext := (Spaced.of_trim f).append_cons (c := ',') rfl (.of_trim t)
      have hfirst := length_trim_le f
      have hbehind := length_trim_le t
      refine ⟨hf.trim, ?_, hf.trim.balanced, balanced_of_nesting? ⟨i, ?_⟩, ?_, ?_⟩
      · rwa [text, behindComma, if_neg hmore]
      · rw [nesting?_trim]
        exact hi
      · simp only [List.length_append, List.length_cons]
        omega
      · simp only [List.length_append, List.length_cons]
        omega

/-! ## Cutting comes to an end -/

/-- What is left to be read of a text with matching parentheses when it has been cut. -/
inductive CutFrom : List Char → List Char → Prop
  | params {s : List Char} {p : Phrase} : Balanced s → Phrase.ofText? s = some p →
    p.params ≠ [] → CutFrom p.params s
  | rest {s : List Char} {p : Phrase} : Balanced s → Phrase.ofText? s = some p →
    p.rest ≠ [] → CutFrom p.rest s
  | first {s : List Char} {q : Parameter} : Balanced s → Parameter.ofText? s = some q →
    q.rest ≠ [] → CutFrom q.first s
  | others {s : List Char} {q : Parameter} : Balanced s → Parameter.ofText? s = some q →
    q.rest ≠ [] → CutFrom q.rest s

theorem CutFrom.length_lt {t s : List Char} (h : CutFrom t s) : t.length < s.length := by
  cases h with
  | params hs h hne => exact (Phrase.lossless hs h).params_lt hne
  | rest hs h hne => exact (Phrase.lossless hs h).rest_lt hne
  | first hs h hne => exact (Parameter.lossless hs h hne).first_lt
  | others hs h hne => exact (Parameter.lossless hs h hne).rest_lt

theorem wellFounded_cutFrom : WellFounded CutFrom :=
  Subrelation.wf CutFrom.length_lt (measure List.length).wf

theorem cutFrom_of_cut {s : List Char} {c : ElementMapper.Cut s} (hs : Balanced s)
    (h : ElementMapper.cut s = .ok c) :
    (c.params ≠ [] → CutFrom c.params s) ∧ (c.rest ≠ [] → CutFrom c.rest s) := by
  obtain ⟨p, hp, hparams, hrest⟩ := ElementMapper.cut_eq_ok_inv h
  rw [hparams, hrest]
  exact ⟨.params hs hp, .rest hs hp⟩

/-- Cutting a text with matching parentheses loses nothing and adds nothing. The type name, the
parameters in a pair of parentheses if there are any, and what follows behind a comma if anything
does are the text up to blanks next to delimiters and at the ends; so are the first parameter of a
list and the others behind their comma. The pieces have matching parentheses again and are shorter
than the text. So the reader, which goes on with such pieces and stops where nothing is left, comes
to an end. -/
theorem cuts_lossless :
    (∀ (s : List Char) (p : Phrase), Balanced s → Phrase.ofText? s = some p → p.Lossless s) ∧
    (∀ (s : List Char) (q : Parameter), Balanced s → Parameter.ofText? s = some q → q.rest ≠ [] →
      q.Lossless s) ∧
    (∀ (s : List Char) (c : ElementMapper.Cut s), Balanced s → ElementMapper.cut s = .ok c →
      (c.params ≠ [] → CutFrom c.params s) ∧ (c.rest ≠ [] → CutFrom c.rest s)) ∧
    (∀ c : ElementMapper.Cut [], ElementMapper.cut [] ≠ .ok c) ∧
    WellFounded CutFrom :=
  ⟨fun _ _ => Phrase.lossless, fun _ _ => Parameter.lossless, fun _ _ => cutFrom_of_cut,
    fun c _ => c.ne_nil rfl, wellFounded_cutFrom⟩

/-- A phrase with blanks all around, followed by another one, and its parameters. -/
theorem cuts_lossless_spaced :
    let s := " Split ( Button(1) , Null )\t, Axis(X)".toList
    let p : Phrase := ⟨"Split".toList, "Button(1) , Null".toList, "Axis(X)".toList⟩
    let q : Parameter := ⟨"Button(1)".toList, "Null".toList⟩
    Balanced s ∧ Phrase.ofText? s = some p ∧ p.Lossless s ∧
      p.text = "Split(Button(1) , Null),Axis(X)".toList ∧
      Balanced p.params ∧ Parameter.ofText? p.params = some q ∧ q.rest ≠ [] ∧
      q.Lossless p.params ∧ q.text = "Button(1),Null".toList := by
  intro s p q
  have hs : Balanced s := balanced_of_nesting? ⟨2, by decide⟩
  have hp : Phrase.ofText? s = some p := by decide
  have hq : Parameter.ofText? p.params = some q := by decide
  have hrest : q.rest ≠ [] := by decide
  obtain ⟨hphrase, hparameter, -⟩ := cuts_lossless
  have hlossless := hphrase s p hs hp
  exact ⟨hs, hp, hlossless, by decide, hlossless.params, hq, hrest,
    hparameter p.params q hlossless.params hq hrest, by decide⟩

end VirtualPad.Language
