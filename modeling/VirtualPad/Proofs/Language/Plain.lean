import VirtualPad.ElementMapper.Parser
import VirtualPad.Proofs.Language.Blanks
import VirtualPad.Proofs.Language.Nested

/-!
# Plain texts

A text without delimiters. Every text is a plain one, or a plain one, a delimiter and a further text
(`fields_cases`, `fields_induction`). So it is enough to know that the scanners walk over plain text
(`splitClose?_plain_append`, `splitComma?_plain_append`) and what they do at a delimiter, and
`Phrase.ofText?` has one equation for each delimiter that can follow a name. The words of the
language are all plain, which leaves a reader nothing to recognize in a text that is not.
-/

namespace VirtualPad.Language

/-- A text without parentheses and commas. -/
def Plain (s : List Char) : Prop := ∀ c ∈ s, isDelimiter c = false

theorem Plain.notParenthesis {a : List Char} (ha : Plain a) : ∀ c ∈ a, c ≠ '(' ∧ c ≠ ')' := by
  intro c hc
  have h := ha c hc
  simp only [isDelimiter, Bool.or_eq_false_iff, beq_eq_false_iff_ne] at h
  exact h.1

theorem Plain.of_subset {a b : List Char} (ha : Plain a) (h : b ⊆ a) : Plain b :=
  fun c hc => ha c (h hc)

theorem Plain.trimStart {a : List Char} (ha : Plain a) : Plain (trimStart a) :=
  ha.of_subset (List.dropWhile_subset isBlank)

theorem Plain.trimEnd {a : List Char} (ha : Plain a) : Plain (trimEnd a) := by
  refine ha.of_subset fun c hc => ?_
  have hreverse := List.mem_reverse.1 hc
  exact List.mem_reverse.1 (List.dropWhile_subset isBlank hreverse)

theorem plain_of_blank {l : List Char} (hl : ∀ c ∈ l, isBlank c = true) : Plain l := by
  intro c hc
  cases hd : isDelimiter c with
  | false => rfl
  | true => exact absurd (hl c hc) (by simp [isBlank_of_isDelimiter hd])

theorem Plain.append {a b : List Char} (ha : Plain a) (hb : Plain b) : Plain (a ++ b) :=
  List.forall_mem_append.2 ⟨ha, hb⟩

theorem Plain.of_trim {a : List Char} (ha : Plain (trim a)) : Plain a := by
  obtain ⟨l, r, hl, hr, hs⟩ := exists_trim a
  rw [hs]
  exact ((plain_of_blank hl).append ha).append (plain_of_blank hr)

theorem Plain.ne_append_cons {a : List Char} (ha : Plain a) {c : Char} (hc : isDelimiter c = true)
    (before after : List Char) : a ≠ before ++ c :: after := by
  rintro rfl
  rw [ha c (by simp)] at hc
  cases hc

theorem nestingFrom_plain_append {a : List Char} (ha : ∀ c ∈ a, c ≠ '(' ∧ c ≠ ')') (d m : Nat)
    (s : List Char) : nestingFrom d m (a ++ s) = nestingFrom d m s := by
  induction a with
  | nil => rfl
  | cons c a ih =>
    obtain ⟨hc, ha⟩ := List.forall_mem_cons.1 ha
    rw [List.cons_append, nestingFrom_cons hc.1 hc.2, ih ha]

theorem nesting?_plain_comma {a : List Char} (ha : Plain a) (s : List Char) :
    nesting? (a ++ ',' :: s) = nesting? s :=
  nestingFrom_plain_append ha.notParenthesis 0 0 (',' :: s)

theorem splitClose?_plain_append {a : List Char} (ha : Plain a) (d : Nat) (s : List Char) :
    splitClose? d (a ++ s) = (splitClose? d s).map fun p => (a ++ p.1, p.2) :=
  splitClose?_append (.of_forall ha.notParenthesis) d s

theorem splitClose?_plain {a : List Char} (ha : Plain a) (d : Nat) : splitClose? d a = none := by
  have h := splitClose?_plain_append ha d []
  rwa [List.append_nil] at h

theorem splitComma?_plain_append {a : List Char} (ha : Plain a) (d : Nat) (s : List Char) :
    splitComma? d (a ++ s) = (splitComma? d s).map fun p => (a ++ p.1, p.2) := by
  induction a with
  | nil => simp
  | cons c a ih =>
    obtain ⟨hc, ha⟩ := List.forall_mem_cons.1 ha
    simp only [isDelimiter, Bool.or_eq_false_iff, beq_eq_false_iff_ne] at hc
    rw [List.cons_append, splitComma?, ih ha]
    · simp [Option.map_map, Function.comp_def]
    · exact hc.1.1
    · exact hc.1.2
    · exact hc.2

theorem splitComma?_plain {a : List Char} (ha : Plain a) (d : Nat) :
    splitComma? d a = if d = 0 then some (a, none) else none := by
  have h := splitComma?_plain_append ha d []
  rw [List.append_nil] at h
  rw [h, splitComma?]
  split
  · simp
  · rfl

theorem Plain.takeWhile_append_cons {a : List Char} (ha : Plain a) {c : Char}
    (hc : isDelimiter c = true) (s : List Char) :
    ((a ++ c :: s).takeWhile fun c => !isDelimiter c) = a := by
  rw [List.takeWhile_append_of_pos fun b hb => by simp [ha b hb]]
  simp [hc]

theorem Plain.dropWhile_append_cons {a : List Char} (ha : Plain a) {c : Char}
    (hc : isDelimiter c = true) (s : List Char) :
    ((a ++ c :: s).dropWhile fun c => !isDelimiter c) = c :: s := by
  rw [List.dropWhile_append_of_pos fun b hb => by simp [ha b hb]]
  simp [hc]

/-! ## Cutting phrases -/

theorem ofText?_plain {a : List Char} (ha : Plain a) :
    Phrase.ofText? a = some ⟨trim a, [], []⟩ := by
  have htake : (a.takeWhile fun c => !isDelimiter c) = a :=
    List.takeWhile_eq_self_iff.2 fun c hc => by simp [ha c hc]
  have hdrop : (a.dropWhile fun c => !isDelimiter c) = [] :=
    List.dropWhile_eq_nil_iff.2 fun c hc => by simp [ha c hc]
  simp only [Phrase.ofText?, htake, hdrop]

theorem ofText?_comma {a : List Char} (ha : Plain a) (s : List Char) :
    Phrase.ofText? (a ++ ',' :: s) = if trim s = [] then none else some ⟨trim a, [], trim s⟩ := by
  simp only [Phrase.ofText?, ha.takeWhile_append_cons (c := ',') rfl,
    ha.dropWhile_append_cons (c := ',') rfl]

theorem ofText?_close {a : List Char} (ha : Plain a) (s : List Char) :
    Phrase.ofText? (a ++ ')' :: s) = none := by
  simp only [Phrase.ofText?, ha.dropWhile_append_cons (c := ')') rfl]
  rfl

theorem ofText?_open {a : List Char} (ha : Plain a) (s : List Char) :
    Phrase.ofText? (a ++ '(' :: s) =
      (splitClose? 0 s).bind fun cut =>
        (afterPhrase? cut.2).bind fun rest =>
          if trim cut.1 = [] then none else some ⟨trim a, trim cut.1, rest⟩ := by
  simp only [Phrase.ofText?, ha.takeWhile_append_cons (c := '(') rfl,
    ha.dropWhile_append_cons (c := '(') rfl]
  cases splitClose? 0 s with
  | none => rfl
  | some cut =>
    obtain ⟨inside, after⟩ := cut
    dsimp only [Option.bind_some]
    cases afterPhrase? after <;> rfl

theorem afterPhrase?_plain {a : List Char} (ha : Plain a) :
    afterPhrase? a = if trim a = [] then some [] else none := by
  unfold afterPhrase?
  split
  · rename_i h
    rw [if_pos (trimStart_eq_nil_iff.1 h)]
  · rename_i more h
    cases ha.trimStart ',' (h ▸ List.mem_cons_self)
  · rename_i h _
    rw [if_neg (mt trimStart_eq_nil_iff.2 h)]

theorem afterPhrase?_append_cons {a : List Char} (ha : Plain a) {c : Char}
    (hc : isDelimiter c = true) (s : List Char) :
    afterPhrase? (a ++ c :: s) =
      if trim a = [] ∧ c = ',' ∧ trim s ≠ [] then some (trim s) else none := by
  have hstart := trimStart_append_cons (isBlank_of_isDelimiter hc) a s
  unfold afterPhrase?
  split
  · rename_i h
    rw [hstart] at h
    exact absurd h (by simp)
  · rename_i more h
    rw [hstart] at h
    cases hcore : trimStart a with
    | nil =>
      rw [hcore, List.nil_append] at h
      obtain ⟨rfl, rfl⟩ := List.cons.inj h
      simp [trimStart_eq_nil_iff.1 hcore]
    | cons d core =>
      rw [hcore, List.cons_append] at h
      obtain ⟨rfl, -⟩ := List.cons.inj h
      cases ha.trimStart ',' (hcore ▸ List.mem_cons_self)
  · rename_i hne hcomma
    rw [if_neg]
    rintro ⟨hblank, rfl, -⟩
    rw [hstart, trimStart_eq_nil_iff.2 hblank, List.nil_append] at hcomma
    exact hcomma s rfl

/-- Every text is plain up to its first delimiter. -/
theorem fields_cases {motive : List Char → Prop} (field : ∀ a, Plain a → motive a)
    (delimiter : ∀ a c s, Plain a → isDelimiter c = true → motive (a ++ c :: s))
    (s : List Char) : motive s := by
  cases hdrop : s.dropWhile fun c => !isDelimiter c with
  | nil =>
    refine field s fun c hc => ?_
    have := List.dropWhile_eq_nil_iff.1 hdrop c hc
    simpa using this
  | cons c t =>
    have hs : s = s.takeWhile (fun c => !isDelimiter c) ++ c :: t := by
      rw [← hdrop, List.takeWhile_append_dropWhile]
    have hplain : Plain (s.takeWhile fun c => !isDelimiter c) := by
      intro b hb
      simpa using List.mem_takeWhile_imp hb
    have hc : isDelimiter c = true := by
      have := List.head?_dropWhile_not (fun c => !isDelimiter c) s
      rw [hdrop] at this
      simpa using this
    rw [hs]
    exact delimiter _ c t hplain hc

/-- What holds of the fields of a text and goes from what stands behind a delimiter over to what
begins with the field in front of it holds of the text. -/
theorem fields_induction {motive : List Char → Prop} (field : ∀ a, Plain a → motive a)
    (delimiter : ∀ a c s, Plain a → isDelimiter c = true → motive s → motive (a ++ c :: s))
    (s : List Char) : motive s := by
  induction h : s.length using Nat.strong_induction_on generalizing s with
  | _ n ih =>
    cases s using fields_cases with
    | field _ ha => exact field s ha
    | delimiter a c s ha hc =>
      have hlength : s.length < n := by
        rw [← h, List.length_append, List.length_cons]
        omega
      exact delimiter a c s ha hc (ih s.length hlength s rfl)

/-! ## Words -/

theorem plain_of_eq_some {α : Type} {f : List Char → Option α}
    (hf : ∀ s, ¬Plain s → f s = none) {s : List Char} {b : α} (h : f s = some b) : Plain s := by
  by_contra hs
  rw [hf s hs] at h
  cases h

theorem lookUp?_of_not_plain {α : Type} {entries : List α} {spellings : α → List String}
    (hplain : ∀ entry ∈ entries, ∀ w ∈ spellings entry, Plain w.toList) {s : List Char}
    (hs : ¬Plain s) : lookUp? entries spellings s = none := by
  refine List.find?_eq_none.2 fun entry hentry hcontains => hs ?_
  have hmem : String.ofList s ∈ spellings entry := by simpa using hcontains
  simpa using hplain entry hentry _ hmem

-- Said in full, because a search would rather go through all characters than through the list.
instance (s : List Char) : Decidable (Plain s) := List.decidableBAll _ s

theorem axisOfText?_of_not_plain (s : List Char) (hs : ¬Plain s) : axisOfText? s = none :=
  lookUp?_of_not_plain (by decide) hs

theorem directionOfText?_of_not_plain (s : List Char) (hs : ¬Plain s) :
    directionOfText? s = none := lookUp?_of_not_plain (by decide) hs

theorem povOfText?_of_not_plain (s : List Char) (hs : ¬Plain s) : povOfText? s = none :=
  lookUp?_of_not_plain (by decide) hs

theorem mouseAxisOfText?_of_not_plain (s : List Char) (hs : ¬Plain s) :
    mouseAxisOfText? s = none := lookUp?_of_not_plain (by decide) hs

theorem mouseButtonOfText?_of_not_plain (s : List Char) (hs : ¬Plain s) :
    mouseButtonOfText? s = none := lookUp?_of_not_plain (by decide) hs

theorem isNumeral_of_not_plain {s : List Char} (hs : ¬Plain s) : isNumeral s = false := by
  simp only [Plain, not_forall, Bool.not_eq_false] at hs
  obtain ⟨c, hc, hdelimiter⟩ := hs
  have halphanum : c.isAlphanum = false := by
    rcases isDelimiter_iff.1 hdelimiter with rfl | rfl | rfl <;> rfl
  rw [isNumeral, Bool.and_eq_false_iff]
  right
  rw [List.all_eq_false]
  exact ⟨c, hc, by simp [halphanum]⟩

theorem decimal?_of_not_plain (s : List Char) (hs : ¬Plain s) : decimal? s = none := by
  rw [decimal?, isNumeral_of_not_plain hs]
  rfl

theorem number?_of_not_plain (s : List Char) (hs : ¬Plain s) : number? s = none := by
  rw [number?, isNumeral_of_not_plain hs]
  rfl

theorem scanCodes_plain : ∀ entry ∈ scanCodes, Plain entry.1.toList := by decide +kernel

theorem mem_dropMark {name : List Char} {c : Char} (hc : c ∈ name)
    (hdelimiter : isDelimiter c = true) : c ∈ dropMark name := by
  unfold dropMark
  split
  · rename_i hmark
    obtain ⟨rest, rfl⟩ := List.isPrefixOf_iff_prefix.1 hmark
    rw [List.drop_left]
    have hplain : Plain keyMark := by decide
    refine (List.mem_append.1 hc).resolve_left fun hmem => ?_
    rw [hplain c hmem] at hdelimiter
    cases hdelimiter
  · exact hc

theorem scanCode?_of_not_plain (s : List Char) (hs : ¬Plain s) : scanCode? s = none := by
  simp only [Plain, not_forall, Bool.not_eq_false] at hs
  obtain ⟨c, hc, hdelimiter⟩ := hs
  have hupper : c.toUpper = c := by
    rcases isDelimiter_iff.1 hdelimiter with rfl | rfl | rfl <;> rfl
  have hkey : scanCodes.lookup (String.ofList ((dropMark s).map Char.toUpper)) = none := by
    rw [List.lookup_eq_none_iff]
    intro entry hentry
    rw [bne_iff_ne]
    intro heq
    have hmem : c ∈ (dropMark s).map Char.toUpper :=
      List.mem_map.2 ⟨c, mem_dropMark hc hdelimiter, hupper⟩
    have hplain := scanCodes_plain entry hentry c (by rwa [← heq, String.toList_ofList])
    rw [hplain] at hdelimiter
    cases hdelimiter
  unfold scanCode?
  split
  · rfl
  · split
    · rfl
    · exact hkey

theorem keyOfParams?_of_not_plain (s : List Char) (hs : ¬Plain s) :
    ElementMapper.keyOfParams? s = none := by
  rw [ElementMapper.keyOfParams?, scanCode?_of_not_plain s hs, number?_of_not_plain s hs]
  rfl

end VirtualPad.Language
