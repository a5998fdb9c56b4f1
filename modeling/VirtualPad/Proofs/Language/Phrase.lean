import Mathlib.Data.List.Basic
import VirtualPad.Proofs.Language.Plain

/-!
# Cutting phrases

What `Phrase.ofText?` finds in a text that was put together from a type name, a parameter list and
further phrases. The cut is exact when the name is a `Word`, the parameters are `Trimmed` and
`Nested`, and what stands behind them `Follows` as a further phrase does.
-/

namespace VirtualPad.Language

/-! ## Blanks at the ends -/

/-- A text that neither begins nor ends with a blank. -/
structure Trimmed (s : List Char) : Prop where
  first : ∀ c ∈ s.head?, isBlank c = false
  last : ∀ c ∈ s.getLast?, isBlank c = false

theorem trimStart_eq_self {s : List Char} (h : ∀ c ∈ s.head?, isBlank c = false) :
    trimStart s = s := by
  cases s with
  | nil => rfl
  | cons c s => simp [trimStart, h c (by simp)]

theorem trimEnd_eq_self {s : List Char} (h : ∀ c ∈ s.getLast?, isBlank c = false) :
    trimEnd s = s := by
  have hr := trimStart_eq_self (s := s.reverse) (by simpa using h)
  rw [trimStart] at hr
  rw [trimEnd, hr, List.reverse_reverse]

theorem Trimmed.trim_eq {s : List Char} (h : Trimmed s) : trim s = s := by
  rw [trim, trimStart_eq_self h.first, trimEnd_eq_self h.last]

theorem Trimmed.trim_cons {s : List Char} (h : Trimmed s) : trim (' ' :: s) = s := by
  have hs : trimStart (' ' :: s) = trimStart s := by simp [trimStart, isBlank]
  rw [trim, hs, trimStart_eq_self h.first, trimEnd_eq_self h.last]

theorem Trimmed.of_forall {s : List Char} (h : ∀ c ∈ s, isBlank c = false) : Trimmed s :=
  ⟨fun c hc => h c (List.mem_of_head? hc), fun c hc => h c (List.mem_of_getLast? hc)⟩

theorem Trimmed.surround {s t : List Char} (hs : Trimmed s) (ht : Trimmed t) (hs0 : s ≠ [])
    (ht0 : t ≠ []) (between : List Char) : Trimmed (s ++ (between ++ t)) := by
  refine ⟨fun c hc => hs.first c ?_, fun c hc => ht.last c ?_⟩
  · rwa [List.head?_append_of_ne_nil _ hs0] at hc
  · rwa [← List.append_assoc, List.getLast?_append_of_ne_nil _ ht0] at hc

/-! ## Names -/

/-- A type name: no delimiter and no blank. -/
def Word (s : List Char) : Prop := s ≠ [] ∧ ∀ c ∈ s, isDelimiter c = false ∧ isBlank c = false

-- Said in full, because a search would rather go through all characters than through the list.
instance (s : List Char) : Decidable (Word s) :=
  @instDecidableAnd _ _ inferInstance (List.decidableBAll _ s)

theorem Word.trimmed {s : List Char} (h : Word s) : Trimmed s :=
  .of_forall fun c hc => (h.2 c hc).2

theorem Word.plain {s : List Char} (h : Word s) : Plain s := fun c hc => (h.2 c hc).1

theorem Word.nested {s : List Char} (h : Word s) : Nested 0 s := .of_forall h.plain.notParenthesis

/-! ## Phrases -/

/-- A text that can stand between two commas: something is there, no blank is at its ends, and its
parentheses match. -/
structure Piece (k : Nat) (s : List Char) : Prop where
  ne_nil : s ≠ []
  trimmed : Trimmed s
  nested : Nested k s

/-- How a text goes on behind a phrase, and what is left of it without the comma and the blank. -/
inductive Follows : List Char → List Char → Prop
  | nothing : Follows [] []
  | more {rest : List Char} : rest ≠ [] → Trimmed rest → Follows (',' :: ' ' :: rest) rest

theorem afterPhrase?_of_follows {tail rest : List Char} (h : Follows tail rest) :
    afterPhrase? tail = some rest := by
  cases h with
  | nothing => rfl
  | more h0 ht =>
    have hs : trimStart (',' :: ' ' :: rest) = ',' :: ' ' :: rest :=
      trimStart_eq_self (by simp [isBlank])
    simp only [afterPhrase?, hs, ht.trim_cons, if_neg h0]

theorem ofText?_word {name tail rest : List Char} (hn : Word name) (hf : Follows tail rest) :
    Phrase.ofText? (name ++ tail) = some ⟨name, [], rest⟩ := by
  cases hf with
  | nothing => rw [List.append_nil, ofText?_plain hn.plain, hn.trimmed.trim_eq]
  | more h0 ht => rw [ofText?_comma hn.plain, ht.trim_cons, if_neg h0, hn.trimmed.trim_eq]

theorem ofText?_group {k : Nat} {name params tail rest : List Char} (hn : Word name)
    (hp : Piece k params) (hf : Follows tail rest) :
    Phrase.ofText? (name ++ '(' :: (params ++ ')' :: tail)) = some ⟨name, params, rest⟩ := by
  simp [ofText?_open hn.plain, splitClose?_nested hp.nested, afterPhrase?_of_follows hf,
    hn.trimmed.trim_eq, hp.trimmed.trim_eq, hp.ne_nil]

/-! ## Parameters -/

theorem Word.piece {s : List Char} (h : Word s) : Piece 0 s := ⟨h.1, h.trimmed, h.nested⟩

theorem Piece.pair {j k : Nat} {s t : List Char} (hs : Piece j s) (ht : Piece k t) :
    Piece (max j k) (s ++ ',' :: ' ' :: t) where
  ne_nil := by simp
  trimmed := hs.trimmed.surround ht.trimmed hs.ne_nil ht.ne_nil [',', ' ']
  nested := by
    have hblank : Nested k (' ' :: t) := .plain (by decide) (by decide) ht.nested
    exact hs.nested.append (.plain (by decide) (by decide) hblank)

theorem Piece.phrase {k : Nat} {name params : List Char} (hn : Word name) (hp : Piece k params) :
    Piece (k + 1) (name ++ '(' :: (params ++ [')'])) where
  ne_nil := by simp
  trimmed := by
    have hclose : Trimmed [')'] := .of_forall (by simp [isBlank])
    exact hn.trimmed.surround hclose hn.1 (by simp) ('(' :: params)
  nested := by
    have h := hn.nested.append hp.nested.parenthesized
    rwa [Nat.zero_max] at h

theorem Piece.follows {k : Nat} {s : List Char} (h : Piece k s) : Follows (',' :: ' ' :: s) s :=
  .more h.ne_nil h.trimmed

theorem ofText_word {s : List Char} (h : Word s) : Parameter.ofText s = ⟨s, []⟩ := by
  simp [Parameter.ofText, Parameter.ofText?, splitComma?_plain h.plain, h.trimmed.trim_eq]

theorem ofText_pair {k : Nat} {s t : List Char} (hs : Word s) (ht : Piece k t) :
    Parameter.ofText (s ++ ',' :: ' ' :: t) = ⟨s, t⟩ := by
  simp [Parameter.ofText, Parameter.ofText?, splitComma?_plain_append hs.plain, splitComma?,
    hs.trimmed.trim_eq, ht.trimmed.trim_cons, ht.ne_nil]

end VirtualPad.Language
