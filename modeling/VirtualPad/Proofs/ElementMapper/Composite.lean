import VirtualPad.Proofs.ElementMapper.First
import VirtualPad.Proofs.ElementMapper.Written
import VirtualPad.Proofs.Language.Standalone

/-!
# Composite mappers

A composite mapper is read child by child out of its parameters, which are not cut up beforehand.
Still each child is read as it would be alone, with the same tree or the same error, whatever stands
around it and whether or not it can be read (`parse_composite`). Only the error that quotes the text
to be cut shows the difference, since a child is cut off everything that has not been read yet.
-/

namespace VirtualPad.ElementMapper

open VirtualPad.Language

/-- The text of a composite mapper with given texts of its children. -/
def composite (name : String) (texts : List String) : String :=
  name ++ "(" ++ ", ".intercalate texts ++ ")"

/-- The error of a text, as it is where more text follows: a text that cannot be cut is quoted with
everything that follows it. -/
def requote (unread : List Char) : ParseError → ParseError
  | .malformed _ => .malformed (String.ofList (trim unread))
  | e => e

/-! ## Where errors arise -/

/-- An error that names the construct in which it arose. -/
def Placed (e : ParseError) : Prop := ∃ place inner, e = .within place inner

theorem bind_eq_error {α β : Type} {x : Except ParseError α} {f : α → Except ParseError β}
    {e : ParseError} : (x >>= f) = .error e ↔ x = .error e ∨ ∃ a, x = .ok a ∧ f a = .error e := by
  cases x with
  | ok a => simp [bind, Except.bind]
  | error e' => simp [bind, Except.bind]

theorem map_eq_error {α β : Type} {x : Except ParseError α} {f : α → β} {e : ParseError} :
    x.map f = .error e ↔ x = .error e := by
  cases x with
  | ok a => simp [Except.map]
  | error e' => simp [Except.map]

theorem placed_of_inPlace {α : Type} {place : Language.Place} {x : Except ParseError α}
    {e : ParseError} (h : inPlace place x = .error e) : Placed e := by
  cases x with
  | ok a => cases h
  | error inner => exact ⟨place, inner, (Except.error.inj h).symm⟩

theorem placed_of_required {α : Type} {form : String} {value : Option α} {fault : ParameterFault}
    {e : ParseError} (h : required form value fault = .error e) : Placed e := by
  cases value with
  | none => exact ⟨_, _, (Except.error.inj h).symm⟩
  | some a => cases h

theorem placed_of_leafOfParams {form : MapperForm} {params : List Char} {e : ParseError}
    (h : leafOfParams form params = .error e) : Placed e := by
  cases form with
  | axis | digitalAxis | mouseAxis => exact placed_of_inPlace (map_eq_error.1 h)
  | button | keyboard | mouseButton | pov => exact placed_of_required (map_eq_error.1 h)
  | _ =>
    unfold leafOfParams at h
    dsimp only at h
    split at h
    · cases h
    · exact ⟨_, _, (Except.error.inj h).symm⟩

theorem placed_of_noMore {form : String} {rest : List Char} {e : ParseError}
    (h : noMore form rest = .error e) : Placed e := by
  unfold noMore at h
  split at h
  · cases h
  · exact ⟨_, _, (Except.error.inj h).symm⟩

theorem placed_of_children {number : Nat} {s : List Char} {e : ParseError}
    (h : children number s = .error e) : Placed e := by
  induction hn : s.length using Nat.strong_induction_on generalizing number s with
  | _ n ih =>
    subst hn
    rw [children_eq] at h
    split at h
    · exact ⟨_, _, (Except.error.inj h).symm⟩
    · rcases bind_eq_error.1 h with h | ⟨⟨child, rest⟩, hfirst, h⟩
      · exact placed_of_inPlace h
      · have hlt := rest_lt_of_first (inPlace_eq_ok.1 hfirst)
        dsimp only at h
        split at h
        · cases h
        · rcases bind_eq_error.1 h with h | ⟨ts, -, h⟩
          · exact ih rest.length hlt h rfl
          · cases h

theorem placed_of_ofParams {form : MapperForm} {params : List Char} {e : ParseError}
    (h : ofParams form params = .error e) : Placed e := by
  cases form with
  | invert =>
    rw [ofParams_invert] at h
    rcases bind_eq_error.1 h with h | ⟨⟨child, rest⟩, -, h⟩
    · exact placed_of_inPlace h
    · rcases bind_eq_error.1 h with h | ⟨u, -, h⟩
      · exact placed_of_noMore h
      · cases h
  | split =>
    rw [ofParams_split] at h
    rcases bind_eq_error.1 h with h | ⟨⟨positive, rest⟩, -, h⟩
    · exact placed_of_inPlace h
    · rcases bind_eq_error.1 h with h | ⟨⟨negative, more⟩, -, h⟩
      · exact placed_of_inPlace h
      · rcases bind_eq_error.1 h with h | ⟨u, -, h⟩
        · exact placed_of_noMore h
        · cases h
  | compound =>
    rw [ofParams] at h
    exact placed_of_children (map_eq_error.1 h)
  | _ =>
    rw [ofParams] at h
    · exact placed_of_leafOfParams h
    all_goals simp

theorem requote_of_placed {e : ParseError} (h : Placed e) (unread : List Char) :
    requote unread e = e := by
  obtain ⟨place, inner, rfl⟩ := h
  rfl

theorem requote_of_ofPhrase {p : Phrase} {e : ParseError} (h : ofPhrase p = .error e)
    (unread : List Char) : requote unread e = e := by
  unfold ofPhrase at h
  split at h
  · obtain rfl := Except.error.inj h
    rfl
  · split at h
    · obtain rfl := Except.error.inj h
      rfl
    · exact requote_of_placed (placed_of_ofParams h) unread

/-! ## One child after another -/

/-- What is written between the parentheses of a composite mapper. -/
def joined (texts : List String) : List Char := (", ".intercalate texts).toList

@[simp] theorem joined_nil : joined [] = [] := by simp [joined]

@[simp] theorem joined_singleton (text : String) : joined [text] = text.toList := by simp [joined]

theorem joined_cons {texts : List String} (h : texts ≠ []) (text : String) :
    joined (text :: texts) = text.toList ++ ',' :: ' ' :: joined texts := by
  simp [joined, String.intercalate_cons_of_ne_nil h]

/-- A text that can be a child: nested one level less than a whole text may be. -/
def Child (text : String) : Prop := Standalone (nestingLimit - 1) text.toList

theorem Child.trim_joined_ne_nil {text : String} {texts : List String} (h : Child text) :
    trim (joined (text :: texts)) ≠ [] := by
  obtain ⟨c, hc, hblank⟩ := h.content
  have hmem : c ∈ joined (text :: texts) := by
    cases texts with
    | nil => rwa [joined_singleton]
    | cons text' texts =>
      rw [joined_cons (by simp)]
      exact List.mem_append_left _ hc
  intro hnil
  rw [trim_eq_nil_iff.1 hnil c hmem] at hblank
  cases hblank

theorem Child.ofText?_joined {text : String} {texts : List String} (h : Child text)
    (hs : ∀ s ∈ texts, Child s) :
    (Phrase.ofText? text.toList = none ∧ Phrase.ofText? (joined (text :: texts)) = none) ∨
      ∃ name params, Phrase.ofText? text.toList = some ⟨name, params, []⟩ ∧
        Phrase.ofText? (joined (text :: texts)) = some ⟨name, params, trim (joined texts)⟩ := by
  cases texts with
  | nil =>
    rw [joined_singleton]
    rcases h.ofText?_append_comma with ⟨halone, -⟩ | ⟨name, params, halone, -⟩
    · exact .inl ⟨halone, halone⟩
    · exact .inr ⟨name, params, halone, halone⟩
  | cons text' texts =>
    have hblank : trim (' ' :: joined (text' :: texts)) = trim (joined (text' :: texts)) :=
      trim_append_of_blank_left (l := [' ']) (by simp [isBlank]) _
    have hmore : trim (' ' :: joined (text' :: texts)) ≠ [] := by
      rw [hblank]
      exact (hs text' List.mem_cons_self).trim_joined_ne_nil
    rw [joined_cons (by simp)]
    rcases h.ofText?_append_comma with ⟨halone, hwith⟩ | ⟨name, params, halone, hwith⟩
    · exact .inl ⟨halone, hwith _ hmore⟩
    · refine .inr ⟨name, params, halone, ?_⟩
      rw [hwith _ hmore, hblank]

theorem Child.parse_eq {text : String} (h : Child text) :
    parse text =
      match Phrase.ofText? text.toList with
      | none => .error (.malformed text)
      | some p => ofPhrase p := by
  obtain ⟨k, hk, hnesting⟩ := h.nested
  rw [parse, ofChars, hnesting]
  dsimp only
  rw [if_neg (Nat.not_lt.2 (hk.trans (Nat.sub_le _ _)))]
  rcases h.ofText?_append_comma with ⟨halone, -⟩ | ⟨name, params, halone, -⟩
  · rw [first_of_none halone, halone, String.ofList_toList]
  · rw [first_of_some halone, halone]
    dsimp only
    cases ofPhrase ⟨name, params, []⟩ <;> rfl

theorem Child.first_joined {text : String} {texts : List String} (h : Child text)
    (hs : ∀ s ∈ texts, Child s) :
    first (trim (joined (text :: texts))) =
      ((parse text).mapError (requote (joined (text :: texts)))).map fun t =>
        (t, trim (joined texts)) := by
  rcases h.ofText?_joined hs with ⟨halone, hjoined⟩ | ⟨name, params, halone, hjoined⟩
  · rw [← ofText?_trim] at hjoined
    rw [first_of_none hjoined, h.parse_eq, halone]
    rfl
  · rw [← ofText?_trim] at hjoined
    rw [first_of_some hjoined, h.parse_eq, halone]
    dsimp only
    have hphrase : ofPhrase ⟨name, params, trim (joined texts)⟩ = ofPhrase ⟨name, params, []⟩ := rfl
    rw [hphrase]
    cases hread : ofPhrase ⟨name, params, []⟩ with
    | ok t => rfl
    | error e =>
      have hquote := requote_of_ofPhrase hread (joined (text :: texts))
      simp only [Except.mapError, Except.map, hquote]

theorem exists_nested_joined {texts : List String} (hs : ∀ s ∈ texts, Child s) :
    ∃ k < nestingLimit, Nested k (joined texts) := by
  induction texts with
  | nil =>
    rw [joined_nil]
    exact ⟨0, by decide, .nil⟩
  | cons text texts ih =>
    obtain ⟨htext, htexts⟩ := List.forall_mem_cons.1 hs
    obtain ⟨j, hj, hnesting⟩ := htext.nested
    have hnested := nested_of_nesting? hnesting
    have hlt : j < nestingLimit := Nat.lt_of_le_of_lt hj (by decide)
    obtain ⟨k, hk, hmore⟩ := ih htexts
    by_cases hnil : texts = []
    · rw [hnil, joined_singleton]
      exact ⟨j, hlt, hnested⟩
    · rw [joined_cons hnil]
      have hblank : Nested k (' ' :: joined texts) := .plain (by decide) (by decide) hmore
      exact ⟨max j k, Nat.max_lt.2 ⟨hlt, hk⟩,
        hnested.append (.plain (by decide) (by decide) hblank)⟩

theorem parse_eq_ofParams {name : String} (form : MapperForm) (hname : Word name.toList)
    (hform : MapperForm.ofText? name.toList = some form) {texts : List String}
    (hne : texts ≠ []) (hs : ∀ s ∈ texts, Child s) :
    parse (composite name texts) = ofParams form (trim (joined texts)) := by
  obtain ⟨k, hk, hnested⟩ := exists_nested_joined hs
  have htext : (composite name texts).toList = name.toList ++ '(' :: (joined texts ++ [')']) := by
    simp [composite, joined]
  have hnesting : nesting? (name.toList ++ '(' :: (joined texts ++ [')'])) = some (k + 1) := by
    rw [nesting?_eq_some (hname.nested.append hnested.parenthesized), Nat.zero_max]
  have hparams : trim (joined texts) ≠ [] := by
    obtain ⟨text, texts, rfl⟩ := List.exists_cons_of_ne_nil hne
    exact (hs text List.mem_cons_self).trim_joined_ne_nil
  have hphrase : Phrase.ofText? (name.toList ++ '(' :: (joined texts ++ [')'])) =
      some ⟨name.toList, trim (joined texts), []⟩ := by
    rw [ofText?_open hname.plain, splitClose?_nested hnested, hname.trimmed.trim_eq]
    simp [afterPhrase?, trimStart, hparams]
  have hread : ofPhrase ⟨name.toList, trim (joined texts), []⟩ =
      ofParams form (trim (joined texts)) := by
    rw [ofPhrase]
    simp only [if_neg hname.1, hform]
  rw [parse, ofChars, htext, hnesting]
  dsimp only
  rw [if_neg (Nat.not_lt.2 hk), first_of_some hphrase, hread]
  cases ofParams form (trim (joined texts)) <;> rfl

/-! ## Children of a compound mapper -/

/-- The step: one child is read, and the others after it. -/
theorem children_joined {number : Nat} {text : String} {texts : List String}
    (hnumber : number ≤ childLimit) (hs : ∀ s ∈ text :: texts, Child s) :
    children number (trim (joined (text :: texts))) = do
      let child ← inPlace (.parameter "Compound" number)
        ((parse text).mapError (requote (joined (text :: texts))))
      if texts = [] then return [child]
      return child :: (← children (number + 1) (trim (joined texts))) := by
  obtain ⟨htext, htexts⟩ := List.forall_mem_cons.1 hs
  have hnil : trim (joined texts) = [] ↔ texts = [] := by
    cases texts with
    | nil => simp [trim, trimStart, trimEnd]
    | cons text' texts =>
      simp [(htexts text' List.mem_cons_self).trim_joined_ne_nil]
  rw [children_eq, if_neg (Nat.not_lt.2 hnumber), htext.first_joined htexts]
  cases parse text with
  | error e => rfl
  | ok t => simp only [Except.mapError, Except.map, inPlace_ok, bind, Except.bind, hnil]

theorem children_accepted {number : Nat} {texts : List String} {trees : List ElementMapper}
    (h : List.Forall₂ (fun s t => parse s = .ok t) texts trees) (hne : texts ≠ [])
    (hs : ∀ s ∈ texts, Child s) (hnumber : number + texts.length ≤ childLimit + 1) :
    children number (trim (joined texts)) = .ok trees := by
  induction h generalizing number with
  | nil => exact absurd rfl hne
  | @cons text tree texts trees hread h ih =>
    rw [List.length_cons] at hnumber
    rw [children_joined (by omega) hs, hread]
    cases h with
    | nil => rfl
    | cons hread' h =>
      rw [ih (by simp) (fun s hmem => hs s (List.mem_cons_of_mem _ hmem)) (by omega)]
      rfl

/-- The run: what is wrong behind children that can be read is wrong with all of them. -/
theorem children_append_error {number : Nat} {before after : List String} {e : ParseError}
    (hne : after ≠ []) (hs : ∀ s ∈ before ++ after, Child s)
    (hread : ∀ s ∈ before, ∃ t, parse s = .ok t)
    (hnumber : number + before.length ≤ childLimit + 1)
    (he : children (number + before.length) (trim (joined after)) = .error e) :
    children number (trim (joined (before ++ after))) = .error e := by
  induction before generalizing number with
  | nil => exact he
  | cons text before ih =>
    rw [List.length_cons, ← Nat.add_assoc, Nat.add_right_comm] at hnumber he
    obtain ⟨⟨t, ht⟩, hbefore⟩ := List.forall_mem_cons.1 hread
    have hs' : ∀ s ∈ text :: (before ++ after), Child s := hs
    have hmore : before ++ after ≠ [] := by simp [hne]
    rw [List.cons_append, children_joined (by omega) hs', ht,
      ih (List.forall_mem_cons.1 hs').2 hbefore hnumber he]
    simp only [Except.mapError, inPlace_ok, bind, Except.bind, if_neg hmore]

theorem children_fault {number : Nat} {before after : List String} {text : String}
    {e : ParseError} (hs : ∀ s ∈ before ++ text :: after, Child s)
    (hread : ∀ s ∈ before, ∃ t, parse s = .ok t) (hfault : parse text = .error e)
    (hnumber : number + before.length ≤ childLimit) :
    children number (trim (joined (before ++ text :: after))) =
      .error (.within (.parameter "Compound" (number + before.length))
        (requote (joined (text :: after)) e)) := by
  refine children_append_error (by simp) hs hread (by omega) ?_
  rw [children_joined hnumber fun s hmem => hs s (List.mem_append_right _ hmem), hfault]
  rfl

theorem children_excess {number : Nat} {before after : List String} (hne : after ≠ [])
    (hs : ∀ s ∈ before ++ after, Child s) (hread : ∀ s ∈ before, ∃ t, parse s = .ok t)
    (hnumber : number + before.length = childLimit + 1) :
    children number (trim (joined (before ++ after))) =
      .error (.within (.form "Compound") (.invalid (.tooManyChildren childLimit))) := by
  refine children_append_error hne hs hread (by omega) ?_
  rw [children_eq, if_pos (by omega)]

/-! ## Reading composite mappers -/

/-- The leftmost of the first eight texts that is not a mapper is reported, with its own error, as
the parameter that it is. -/
def ReportsLeftmost (name : String) (texts : List String) : Prop :=
  ∀ before text after e, texts = before ++ text :: after → before.length < childLimit →
    (∀ s ∈ before, ∃ t, parse s = .ok t) → parse text = .error e →
      parse (composite name texts) =
        .error (.within (.parameter name (before.length + 1)) (requote (joined (text :: after)) e))

theorem split_joined {s s' : String} (hs : Child s) (hs' : Child s') :
    parse (composite "Split" [s, s']) = do
      let positive ← inPlace (.parameter "Split" 1)
        ((parse s).mapError (requote (joined [s, s'])))
      let negative ← inPlace (.parameter "Split" 2) ((parse s').mapError (requote (joined [s'])))
      return .split positive negative := by
  have hboth : ∀ u ∈ [s, s'], Child u := List.forall_mem_cons.2 ⟨hs, by simpa using hs'⟩
  rw [parse_eq_ofParams .split (by decide) rfl (by simp) hboth, ofParams_split,
    hs.first_joined (by simpa using hs')]
  cases parse s with
  | error e => rfl
  | ok t =>
    simp only [Except.mapError, Except.map, inPlace_ok, bind, Except.bind,
      hs'.first_joined (List.forall_mem_nil Child)]
    cases parse s' <;> rfl

theorem invert_joined {s : String} (hs : Child s) :
    parse (composite "Invert" [s]) = do
      let child ← inPlace (.parameter "Invert" 1) ((parse s).mapError (requote (joined [s])))
      return .invert child := by
  rw [parse_eq_ofParams .invert (by decide) rfl (by simp) (by simpa using hs),
    ofParams_invert, hs.first_joined (by simp)]
  cases parse s <;> rfl

/-- Each text in the parameters of a composite mapper counts as it counts alone: if all of them are
mappers the result is made of these, and otherwise the first that is none is reported. Too many
texts are an error once as many as are allowed have been read. -/
theorem parse_composite :
    (∀ texts : List String, texts ≠ [] → (∀ s ∈ texts, Child s) →
      (∀ trees, texts.length ≤ childLimit →
        List.Forall₂ (fun s t => parse s = .ok t) texts trees →
          parse (composite "Compound" texts) = .ok (.compound trees)) ∧
      ReportsLeftmost "Compound" texts ∧
      (childLimit < texts.length → (∀ s ∈ texts.take childLimit, ∃ t, parse s = .ok t) →
        parse (composite "Compound" texts) =
          .error (.within (.form "Compound") (.invalid (.tooManyChildren childLimit))))) ∧
    (∀ s s' : String, Child s → Child s' →
      (∀ t t', parse s = .ok t → parse s' = .ok t' →
        parse (composite "Split" [s, s']) = .ok (.split t t')) ∧
      ReportsLeftmost "Split" [s, s']) ∧
    ∀ s : String, Child s →
      (∀ t, parse s = .ok t → parse (composite "Invert" [s]) = .ok (.invert t)) ∧
      ReportsLeftmost "Invert" [s] := by
  refine ⟨fun texts hne hs => ?_, fun s s' hs hs' => ⟨fun t t' ht ht' => ?_, ?_⟩,
    fun s hs => ⟨fun t ht => ?_, ?_⟩⟩
  · have hcompound : parse (composite "Compound" texts) =
        (children 1 (trim (joined texts))).map .compound := by
      rw [parse_eq_ofParams .compound (by decide) rfl hne hs, ofParams]
    refine ⟨fun trees hlength hread => ?_, fun before text after e htexts hlength hread he => ?_,
      fun hlength hread => ?_⟩
    · rw [hcompound, children_accepted hread hne hs (by omega)]
      rfl
    · subst htexts
      rw [hcompound, children_fault hs hread he (by omega), Nat.add_comm 1]
      rfl
    · have hsplit : texts.take childLimit ++ texts.drop childLimit = texts :=
        List.take_append_drop childLimit texts
      have hmore : texts.drop childLimit ≠ [] := by simpa using hlength
      have hcount : 1 + (texts.take childLimit).length = childLimit + 1 := by
        rw [List.length_take]
        omega
      rw [← hsplit] at hs
      have hexcess := children_excess hmore hs hread hcount
      rw [hsplit] at hexcess
      rw [hcompound, hexcess]
      rfl
  · rw [split_joined hs hs', ht, ht']
    rfl
  · intro before text after e htexts _ hread he
    rw [split_joined hs hs']
    rcases before with _ | ⟨u, _ | ⟨u', before⟩⟩
    · obtain ⟨rfl, rfl⟩ := List.cons.inj htexts
      rw [he]
      rfl
    · obtain ⟨hu, htexts⟩ := List.cons.inj htexts
      obtain ⟨rfl, rfl⟩ := List.cons.inj htexts
      obtain ⟨t, ht⟩ := hread s (by simp [hu])
      rw [ht, he]
      rfl
    · simp at htexts
  · rw [invert_joined hs, ht]
    rfl
  · intro before text after e htexts _ _ he
    rw [invert_joined hs]
    rcases before with _ | ⟨u, before⟩
    · obtain ⟨rfl, rfl⟩ := List.cons.inj htexts
      rw [he]
      rfl
    · simp at htexts

/-- The second of three texts cannot be cut, and is quoted together with the third. -/
theorem parse_composite_fault :
    (∀ s ∈ ["Axis(X, +)", "Button(1) 2", "Nul"], Child s) ∧
      parse "Axis(X, +)" = .ok (.axis .x .positive) ∧
      parse "Button(1) 2" = .error (.malformed "Button(1) 2") ∧
      parse "Compound(Axis(X, +), Button(1) 2, Nul)" =
        .error (.within (.parameter "Compound" 2) (.malformed "Button(1) 2, Nul")) := by
  have haxis : ¬OuterComma "Axis(X, +)".toList := by
    rintro ⟨before, after, h, hcount⟩
    simp [List.cons_eq_append_iff] at h
    rw [h.1] at hcount
    cases hcount
  have hbutton : ¬OuterComma "Button(1) 2".toList := by
    rintro ⟨before, after, h, -⟩
    simp [List.cons_eq_append_iff] at h
  have hword : ¬OuterComma "Nul".toList := by
    rintro ⟨before, after, h, -⟩
    simp [List.cons_eq_append_iff] at h
  have hs : ∀ s ∈ ["Axis(X, +)", "Button(1) 2", "Nul"], Child s := by
    simp only [List.forall_mem_cons]
    exact ⟨⟨⟨'A', by simp, rfl⟩, ⟨1, by decide, rfl⟩, haxis⟩,
      ⟨⟨'B', by simp, rfl⟩, ⟨1, by decide, rfl⟩, hbutton⟩,
      ⟨⟨'N', by simp, rfl⟩, ⟨0, by decide, rfl⟩, hword⟩, by simp⟩
  have hfirst : parse "Axis(X, +)" = .ok (.axis .x .positive) := by with_unfolding_all rfl
  have hsecond : parse "Button(1) 2" = .error (.malformed "Button(1) 2") := by
    with_unfolding_all rfl
  have hreport := (parse_composite.1 _ (by simp) hs).2.1 ["Axis(X, +)"] "Button(1) 2" ["Nul"] _ rfl
    (by decide) (by simpa using ⟨_, hfirst⟩) hsecond
  exact ⟨hs, hfirst, hsecond, hreport⟩

end VirtualPad.ElementMapper
