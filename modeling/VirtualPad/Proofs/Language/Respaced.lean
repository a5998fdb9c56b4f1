import Mathlib.Logic.Relation
import VirtualPad.Proofs.Language.Balance
import VirtualPad.Proofs.Language.Plain

/-!
# Blanks next to delimiters

`Respaced s t` says that two texts have the same delimiters with the same text between them, apart
from blanks at its ends. Putting in a blank next to a delimiter or at an end of the text leads to
such a text (`BlankInserted.respaced`).

What a scanner makes of two such texts is the same up to blanks in such places: the results are
related by `Option.Rel`, which leaves no room for a text that is cut where the other one is not.
Pieces that have been trimmed are `Alike`, and since blanks can only differ next to a delimiter, the
words among them are equal (`Alike.lookup_eq`).
-/

namespace VirtualPad.Language

/-- Two texts have the same delimiters, and the same text between them apart from blanks next to the
delimiters and at the ends. -/
inductive Respaced : List Char → List Char → Prop
  | field {a b : List Char} : Plain a → Plain b → trim a = trim b → Respaced a b
  | delimiter {a b s t : List Char} {c : Char} : isDelimiter c = true → Plain a → Plain b →
      trim a = trim b → Respaced s t → Respaced (a ++ c :: s) (b ++ c :: t)

theorem rel_bind {α β α' β' : Type} {r : α → β → Prop} {r' : α' → β' → Prop}
    {f : α → Option α'} {g : β → Option β'} {x : Option α} {y : Option β} (h : Option.Rel r x y)
    (hr : ∀ a b, r a b → Option.Rel r' (f a) (g b)) : Option.Rel r' (x.bind f) (y.bind g) := by
  cases h with
  | none => exact .none
  | some h => exact hr _ _ h

theorem rel_map {α β α' β' : Type} {r : α → β → Prop} {r' : α' → β' → Prop} {f : α → α'}
    {g : β → β'} {x : Option α} {y : Option β} (h : Option.Rel r x y)
    (hr : ∀ a b, r a b → r' (f a) (g b)) : Option.Rel r' (x.map f) (y.map g) := by
  cases h with
  | none => exact .none
  | some h => exact .some (hr _ _ h)

namespace Respaced

theorem refl (s : List Char) : Respaced s s := by
  induction s using fields_induction with
  | field a ha => exact .field ha ha rfl
  | delimiter a c s ha hc ih => exact .delimiter hc ha ha rfl ih

/-! ## Blanks next to delimiters -/

theorem cons_of_blank {b : Char} (hb : isBlank b = true) (s : List Char) : Respaced s (b :: s) := by
  have hblank : ∀ c ∈ [b], isBlank c = true := by simpa using hb
  have hplain {a : List Char} (ha : Plain a) : Plain ([b] ++ a) := (plain_of_blank hblank).append ha
  cases s using fields_cases with
  | field _ ha => exact .field ha (hplain ha) (trim_append_of_blank_left hblank s).symm
  | delimiter a c s ha hc =>
    exact .delimiter hc ha (hplain ha) (trim_append_of_blank_left hblank a).symm (.refl s)

end Respaced

/-- A blank is put in next to a delimiter or at an end of the text. -/
inductive BlankInserted : List Char → List Char → Prop
  | insert (before after : List Char) {b : Char} : isBlank b = true →
      (∀ c ∈ before.getLast?, isDelimiter c = true) ∨ (∀ c ∈ after.head?, isDelimiter c = true) →
      BlankInserted (before ++ after) (before ++ b :: after)

theorem BlankInserted.respaced {s t : List Char} (h : BlankInserted s t) : Respaced s t := by
  obtain ⟨before, after, hb, hbeside⟩ := h
  rename_i b
  have hblank : ∀ c ∈ [b], isBlank c = true := by simpa using hb
  induction before using fields_induction with
  | field a ha =>
    rcases hbeside with hlast | hhead
    · -- A plain text does not end with a delimiter, so this is the front of the whole text.
      obtain rfl : a = [] := by
        cases hend : a.getLast? with
        | none => exact List.getLast?_eq_none_iff.1 hend
        | some c =>
          have hdelimiter := hlast c hend
          rw [ha c (List.mem_of_getLast? hend)] at hdelimiter
          cases hdelimiter
      exact .cons_of_blank hb after
    · have hplain : Plain (a ++ [b]) := ha.append (plain_of_blank hblank)
      have htrim : trim a = trim (a ++ [b]) := (trim_append_of_blank_right hblank a).symm
      cases after with
      | nil =>
        rw [List.append_nil]
        exact .field ha hplain htrim
      | cons c after =>
        have hc := hhead c rfl
        have h := Respaced.delimiter hc ha hplain htrim (.refl after)
        rwa [List.append_assoc] at h
  | delimiter a c s ha hc ih =>
    rw [List.append_assoc, List.append_assoc]
    refine .delimiter hc ha ha rfl (ih ?_)
    refine hbeside.imp_left fun hlast d hd => hlast d ?_
    rw [List.getLast?_append, List.getLast?_cons]
    simp [Option.mem_def.1 hd]

namespace Respaced

variable {s t : List Char}

/-! ## What blanks do not change -/

theorem nestingFrom_eq (h : Respaced s t) (d m : Nat) : nestingFrom d m s = nestingFrom d m t := by
  induction h generalizing d m with
  | @field a b ha hb _ =>
    have hends := nestingFrom_append_plain ha.notParenthesis d m []
    rw [List.nil_append] at hends
    rw [hends, ← nestingFrom_append_plain hb.notParenthesis d m [], List.nil_append]
  | @delimiter a b s t c hc ha hb _ _ ih =>
    have hcons (d m : Nat) : nestingFrom d m (c :: s) = nestingFrom d m (c :: t) := by
      rcases isDelimiter_iff.1 hc with rfl | rfl | rfl
      · exact ih (d + 1) (max m (d + 1))
      · cases d with
        | zero => rfl
        | succ d => exact ih d m
      · exact ih d m
    rw [nestingFrom_plain_append ha.notParenthesis, nestingFrom_plain_append hb.notParenthesis,
      hcons]

theorem nesting?_eq (h : Respaced s t) : nesting? s = nesting? t := h.nestingFrom_eq 0 0

theorem trimStart (h : Respaced s t) : Respaced (trimStart s) (trimStart t) := by
  cases h with
  | field ha hb htrim => exact .field ha.trimStart hb.trimStart (by simpa using htrim)
  | delimiter hc ha hb htrim hrest =>
    rw [trimStart_append_cons (isBlank_of_isDelimiter hc),
      trimStart_append_cons (isBlank_of_isDelimiter hc)]
    exact .delimiter hc ha.trimStart hb.trimStart (by simpa using htrim) hrest

theorem trimEnd (h : Respaced s t) : Respaced (trimEnd s) (trimEnd t) := by
  induction h with
  | field ha hb htrim => exact .field ha.trimEnd hb.trimEnd (by simpa using htrim)
  | delimiter hc ha hb htrim _ ih =>
    rw [trimEnd_append_cons (isBlank_of_isDelimiter hc),
      trimEnd_append_cons (isBlank_of_isDelimiter hc)]
    exact .delimiter hc ha hb htrim ih

theorem trim (h : Respaced s t) : Respaced (trim s) (trim t) := h.trimStart.trimEnd

theorem trim_eq_nil_iff (h : Respaced s t) : Language.trim s = [] ↔ Language.trim t = [] := by
  cases h with
  | field _ _ htrim => rw [htrim]
  | delimiter hc _ _ _ _ =>
    rw [trim_append_cons (isBlank_of_isDelimiter hc), trim_append_cons (isBlank_of_isDelimiter hc)]
    simp

end Respaced

/-! ## Parts of texts -/

/-- Two texts are respaced, and neither has blanks at its ends. -/
structure Alike (s t : List Char) : Prop where
  respaced : Respaced s t
  left : trim s = s
  right : trim t = t

theorem alike_trim {s t : List Char} (h : Respaced s t) : Alike (trim s) (trim t) :=
  ⟨h.trim, trim_trim s, trim_trim t⟩

namespace Alike

variable {p q : List Char}

theorem nil : Alike [] [] := ⟨.refl [], rfl, rfl⟩

theorem eq_nil_iff (h : Alike p q) : p = [] ↔ q = [] := by
  have := h.respaced.trim_eq_nil_iff
  rwa [h.left, h.right] at this

theorem eq_or (h : Alike p q) : p = q ∨ ¬Plain p ∧ ¬Plain q := by
  have hleft := h.left
  have hright := h.right
  cases h.respaced with
  | field _ _ htrim =>
    rw [hleft, hright] at htrim
    exact .inl htrim
  | delimiter hc _ _ _ _ =>
    exact .inr ⟨fun hplain => hplain.ne_append_cons hc _ _ rfl,
      fun hplain => hplain.ne_append_cons hc _ _ rfl⟩

/-- Whoever knows plain words only does not tell the two apart. -/
theorem lookup_eq (h : Alike p q) {α : Type} {f : List Char → Option α}
    (hf : ∀ s, ¬Plain s → f s = none) : f p = f q := by
  rcases h.eq_or with rfl | ⟨hp, hq⟩
  · rfl
  · rw [hf p hp, hf q hq]

end Alike

/-! ## Cutting -/

namespace Respaced

variable {s t : List Char}

theorem splitClose? (h : Respaced s t) (d : Nat) :
    Option.Rel (fun p q => Respaced p.1 q.1 ∧ Respaced p.2 q.2) (splitClose? d s)
      (splitClose? d t) := by
  induction h generalizing d with
  | field ha hb _ =>
    rw [splitClose?_plain ha, splitClose?_plain hb]
    exact .none
  | @delimiter a b s t c hc ha hb htrim hrest ih =>
    -- Behind the delimiter, which stays in what is cut off unless it is the parenthesis sought.
    have hcons (d' : Nat) : Option.Rel
        (fun p q => Respaced (a ++ p.1) (b ++ q.1) ∧ Respaced p.2 q.2)
        ((Language.splitClose? d' s).map fun p => (c :: p.1, p.2))
        ((Language.splitClose? d' t).map fun p => (c :: p.1, p.2)) :=
      rel_map (ih d') fun p q hpq => ⟨.delimiter hc ha hb htrim hpq.1, hpq.2⟩
    rw [splitClose?_plain_append ha, splitClose?_plain_append hb]
    refine rel_map (r := fun p q => Respaced (a ++ p.1) (b ++ q.1) ∧ Respaced p.2 q.2) ?_
      fun p q hpq => hpq
    rcases isDelimiter_iff.1 hc with rfl | rfl | rfl
    · exact hcons (d + 1)
    · cases d with
      | zero =>
        refine .some ⟨?_, hrest⟩
        rw [List.append_nil, List.append_nil]
        exact .field ha hb htrim
      | succ d => exact hcons d
    · exact hcons d

theorem splitComma? (h : Respaced s t) (d : Nat) :
    Option.Rel (fun p q => Respaced p.1 q.1 ∧ Option.Rel Respaced p.2 q.2) (splitComma? d s)
      (splitComma? d t) := by
  induction h generalizing d with
  | field ha hb htrim =>
    rw [splitComma?_plain ha, splitComma?_plain hb]
    by_cases hd : d = 0
    · rw [if_pos hd, if_pos hd]
      exact .some ⟨.field ha hb htrim, .none⟩
    · rw [if_neg hd, if_neg hd]
      exact .none
  | @delimiter a b s t c hc ha hb htrim hrest ih =>
    have hcons (d' : Nat) : Option.Rel
        (fun p q => Respaced (a ++ p.1) (b ++ q.1) ∧ Option.Rel Respaced p.2 q.2)
        ((Language.splitComma? d' s).map fun p => (c :: p.1, p.2))
        ((Language.splitComma? d' t).map fun p => (c :: p.1, p.2)) :=
      rel_map (ih d') fun p q hpq => ⟨.delimiter hc ha hb htrim hpq.1, hpq.2⟩
    rw [splitComma?_plain_append ha, splitComma?_plain_append hb]
    refine rel_map
      (r := fun p q => Respaced (a ++ p.1) (b ++ q.1) ∧ Option.Rel Respaced p.2 q.2) ?_
      fun p q hpq => hpq
    rcases isDelimiter_iff.1 hc with rfl | rfl | rfl
    · exact hcons (d + 1)
    · cases d with
      | zero => exact .none
      | succ d => exact hcons d
    · cases d with
      | zero =>
        refine .some ⟨?_, .some hrest⟩
        rw [List.append_nil, List.append_nil]
        exact .field ha hb htrim
      | succ d => exact hcons (d + 1)

theorem afterPhrase? (h : Respaced s t) :
    Option.Rel Alike (afterPhrase? s) (afterPhrase? t) := by
  cases h with
  | @field a b ha hb htrim =>
    rw [afterPhrase?_plain ha, afterPhrase?_plain hb, htrim]
    split
    · exact .some .nil
    · exact .none
  | delimiter hc ha hb htrim hrest =>
    simp only [afterPhrase?_append_cons ha hc, afterPhrase?_append_cons hb hc, htrim, ne_eq,
      hrest.trim_eq_nil_iff]
    split
    · exact .some (alike_trim hrest)
    · exact .none

theorem ofText? (h : Respaced s t) :
    Option.Rel (fun p q => p.name = q.name ∧ Alike p.params q.params ∧ Alike p.rest q.rest)
      (Phrase.ofText? s) (Phrase.ofText? t) := by
  cases h with
  | @field a b ha hb htrim =>
    rw [ofText?_plain ha, ofText?_plain hb]
    exact .some ⟨htrim, .nil, .nil⟩
  | @delimiter a b s t c hc ha hb htrim hrest =>
    rcases isDelimiter_iff.1 hc with rfl | rfl | rfl
    · rw [ofText?_open ha, ofText?_open hb]
      refine rel_bind (hrest.splitClose? 0) fun p q hcut => ?_
      refine rel_bind hcut.2.afterPhrase? fun u v hafter => ?_
      simp only [hcut.1.trim_eq_nil_iff]
      split
      · exact .none
      · exact .some ⟨htrim, alike_trim hcut.1, hafter⟩
    · rw [ofText?_close ha, ofText?_close hb]
      exact .none
    · simp only [ofText?_comma ha, ofText?_comma hb, hrest.trim_eq_nil_iff]
      split
      · exact .none
      · exact .some ⟨htrim, .nil, alike_trim hrest⟩

end Respaced

theorem Alike.ofText {p q : List Char} (h : Alike p q) :
    Alike (Parameter.ofText p).first (Parameter.ofText q).first ∧
      Alike (Parameter.ofText p).rest (Parameter.ofText q).rest := by
  unfold Parameter.ofText Parameter.ofText?
  have hcut := h.respaced.splitComma? 0
  revert hcut
  generalize splitComma? 0 p = x
  generalize splitComma? 0 q = y
  rintro (@⟨⟨a, s?⟩, ⟨b, t?⟩, hfirst, hrest⟩ | _)
  · dsimp only at hfirst hrest
    rcases hrest with @⟨s, t, hrest⟩ | _
    · by_cases hnil : trim s = []
      · simp only [if_pos hnil, if_pos (hrest.trim_eq_nil_iff.1 hnil)]
        exact ⟨.nil, .nil⟩
      · simp only [if_neg hnil, if_neg (mt hrest.trim_eq_nil_iff.2 hnil)]
        exact ⟨alike_trim hfirst, alike_trim hrest⟩
    · exact ⟨alike_trim hfirst, .nil⟩
  · exact ⟨.nil, .nil⟩

end VirtualPad.Language
