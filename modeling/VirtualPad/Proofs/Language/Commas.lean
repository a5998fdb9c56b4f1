import Mathlib.Data.List.Basic
import VirtualPad.Proofs.Language.Balance
import VirtualPad.Proofs.Language.Plain

/-!
# Dangling commas

A comma dangles if nothing but blanks stands between it and a closing parenthesis or the end of the
text. The cuts refuse a text in which the comma that they cut at dangles; whoever takes a refusal
for an empty text overlooks it, together with the text before it.

`Harmless` says of a text that each of its dangling commas is overlooked in that way. It holds of a
text that is put together from pieces of which it holds, which is what an induction along a reader
needs.
-/

namespace VirtualPad.Language

/-- What follows a comma is blank, or blank up to a closing parenthesis. -/
def Dangling (after : List Char) : Prop := ∀ c ∈ (trimStart after).head?, c = ')'

-- Said in full, because a search would rather go through all characters than look at the first.
instance (after : List Char) : Decidable (Dangling after) := Option.decidableForallMem _

/-- A single parameter: its parentheses match, and there is no comma outside of them. -/
def Single (s : List Char) : Prop := splitComma? 0 s = some (s, none)

/-- A comma in a list of an axis, one further parameter and nothing behind its comma: either this
last comma or one within the parameter before it. -/
def Dropped (IsAxis : List Char → Prop) (before after : List Char) : Prop :=
  ∃ axis skipped parameter blanks, before = axis ++ ',' :: skipped ∧
    skipped ++ ',' :: after = parameter ++ ',' :: blanks ∧
    IsAxis (trim axis) ∧ Single parameter ∧ trim blanks = []

/-- A comma that is dropped from the parameter list of a construct. It depends on the name of the
construct what its axes are. -/
def Ignored (TakesAxis : List Char → List Char → Prop) (before after : List Char) : Prop :=
  ∃ head name b c tail, before = head ++ (name ++ '(' :: b) ∧ after = c ++ ')' :: tail ∧
    (∀ d ∈ head.getLast?, isDelimiter d = true) ∧ Dropped (TakesAxis (trim name)) b c

/-- Every dangling comma of a text is ignored, or dropped from the text as a parameter list. -/
def Harmless (TakesAxis : List Char → List Char → Prop) (IsAxis : List Char → Prop)
    (s : List Char) : Prop :=
  ∀ before after, s = before ++ ',' :: after → Dangling after →
    Ignored TakesAxis before after ∨ Dropped IsAxis before after

/-! ## Places in a text -/

theorem append_eq_append_cons {u v before after : List Char} {x : Char}
    (h : u ++ v = before ++ x :: after) :
    (∃ m, before = u ++ m ∧ v = m ++ x :: after) ∨ ∃ m, u = before ++ x :: m ∧ after = m ++ v := by
  rcases List.append_eq_append_iff.1 h with ⟨m, hbefore, hv⟩ | ⟨m, hu, hafter⟩
  · exact .inl ⟨m, hbefore, hv⟩
  · cases m with
    | nil => exact .inl ⟨[], by simpa using hu.symm, by simpa using hafter.symm⟩
    | cons y m =>
      obtain ⟨rfl, rfl⟩ := List.cons.inj hafter
      exact .inr ⟨m, hu, rfl⟩

theorem cons_eq_append_cons {v before after : List Char} {x y : Char}
    (h : y :: v = before ++ x :: after) (hne : y ≠ x) :
    ∃ m, before = y :: m ∧ v = m ++ x :: after := by
  cases before with
  | nil => exact absurd (List.cons.inj h).1 hne
  | cons z m =>
    obtain ⟨rfl, hv⟩ := List.cons.inj h
    exact ⟨m, rfl, hv⟩

theorem Dangling.of_append {c r : List Char} (h : Dangling (c ++ r)) : Dangling c := by
  intro x hx
  cases hc : trimStart c with
  | nil =>
    rw [hc] at hx
    cases hx
  | cons y t =>
    rw [hc] at hx
    refine h x ?_
    rw [trimStart, List.dropWhile_append, ← trimStart, hc]
    exact hx

theorem not_dangling {s : List Char} {k : Nat} (hn : nesting? s = some k) (hs : trim s ≠ []) :
    ¬Dangling s := by
  intro h
  obtain ⟨c, t, hstart⟩ := List.exists_cons_of_ne_nil (mt trimStart_eq_nil_iff.1 hs)
  have hclose : c = ')' := h c (by rw [hstart]; rfl)
  rw [nesting?, ← nestingFrom_trimStart, hstart, hclose] at hn
  cases hn

/-! ## Single parameters -/

theorem splitComma?_append {d : Nat} {s f : List Char} (h : splitComma? d s = some (f, none))
    (t : List Char) : splitComma? d (s ++ t) = (splitComma? 0 t).map fun p => (s ++ p.1, p.2) := by
  fun_induction splitComma? d s generalizing f with
  | case1 => simp
  | case2 d hd => cases h
  | case3 d s ih =>
    obtain ⟨first, hs, rfl⟩ := exists_of_map_cons h
    rw [List.cons_append, splitComma?, ih hs, Option.map_map]
    rfl
  | case4 s => cases h
  | case5 s d ih =>
    obtain ⟨first, hs, rfl⟩ := exists_of_map_cons h
    rw [List.cons_append, splitComma?, ih hs, Option.map_map]
    rfl
  | case6 s => cases h
  | case7 d s hd ih =>
    obtain ⟨first, hs, rfl⟩ := exists_of_map_cons h
    rw [List.cons_append, splitComma?, if_neg hd, ih hs, Option.map_map]
    rfl
  | case8 d c s hopen hclose hcomma ih =>
    obtain ⟨first, hs, rfl⟩ := exists_of_map_cons h
    rw [List.cons_append, splitComma?, ih hs, Option.map_map]
    · rfl
    · exact hopen
    · exact hclose
    · exact hcomma

/-- A text with matching parentheses is a single parameter or has one before its first comma. -/
theorem splitComma?_cases {d m k : Nat} {s : List Char} (h : nestingFrom d m s = some k) :
    splitComma? d s = some (s, none) ∨
      ∃ f t, s = f ++ ',' :: t ∧ splitComma? d f = some (f, none) := by
  fun_induction splitComma? d s generalizing m with
  | case1 => exact .inl rfl
  | case2 d hd =>
    rw [nestingFrom, if_neg hd] at h
    cases h
  | case3 d s ih =>
    rcases ih h with hs | ⟨f, t, rfl, hf⟩
    · exact .inl (by rw [hs]; rfl)
    · exact .inr ⟨'(' :: f, t, rfl, by rw [splitComma?, hf]; rfl⟩
  | case4 s => cases h
  | case5 s d ih =>
    rcases ih h with hs | ⟨f, t, rfl, hf⟩
    · exact .inl (by rw [hs]; rfl)
    · exact .inr ⟨')' :: f, t, rfl, by rw [splitComma?, hf]; rfl⟩
  | case6 s => exact .inr ⟨[], s, rfl, rfl⟩
  | case7 d s hd ih =>
    rcases ih h with hs | ⟨f, t, rfl, hf⟩
    · exact .inl (by rw [hs]; rfl)
    · exact .inr ⟨',' :: f, t, rfl, by rw [splitComma?, if_neg hd, hf]; rfl⟩
  | case8 d c s hopen hclose hcomma ih =>
    rw [nestingFrom_cons hopen hclose] at h
    rcases ih h with hs | ⟨f, t, rfl, hf⟩
    · exact .inl (by rw [hs]; rfl)
    · refine .inr ⟨c :: f, t, rfl, ?_⟩
      rw [splitComma?, hf]
      · rfl
      · exact hopen
      · exact hclose
      · exact hcomma

theorem single_or_cut {s : List Char} {k : Nat} (h : nesting? s = some k) :
    Single s ∨ ∃ f t, s = f ++ ',' :: t ∧ Single f := splitComma?_cases h

theorem Plain.single {a : List Char} (ha : Plain a) : Single a := splitComma?_plain ha 0

theorem Single.append {s t : List Char} (hs : Single s) (ht : Single t) : Single (s ++ t) := by
  rw [Single, splitComma?_append hs, ht]
  rfl

theorem Single.of_plain_append {a s : List Char} (ha : Plain a) (h : Single (a ++ s)) :
    Single s := by
  rw [Single, splitComma?_plain_append ha, Option.map_eq_some_iff] at h
  obtain ⟨⟨f, more⟩, hs, hf⟩ := h
  obtain ⟨hf, rfl⟩ := Prod.mk.inj hf
  have hfirst : f = s := List.append_cancel_left hf
  rw [Single, hs, hfirst]

theorem Single.of_trim {s : List Char} (h : Single (trim s)) : Single s := by
  obtain ⟨l, r, hl, hr, hs⟩ := exists_trim s
  rw [hs]
  exact ((plain_of_blank hl).single.append h).append (plain_of_blank hr).single

theorem Single.trimStart {s : List Char} (h : Single s) : Single (trimStart s) := by
  obtain ⟨l, hl, hs⟩ := exists_trimStart s
  rw [hs] at h
  exact h.of_plain_append (plain_of_blank hl)

theorem ofText_single {s : List Char} (h : Single s) : Parameter.ofText s = ⟨trim s, []⟩ := by
  simp [Parameter.ofText, Parameter.ofText?, show splitComma? 0 s = some (s, none) from h]

theorem ofText_cut {f : List Char} (h : Single f) (t : List Char) :
    Parameter.ofText (f ++ ',' :: t) = if trim t = [] then ⟨[], []⟩ else ⟨trim f, trim t⟩ := by
  have hcut : splitComma? 0 (f ++ ',' :: t) = some (f, some t) := by
    rw [splitComma?_append h]
    simp [splitComma?]
  rw [Parameter.ofText, Parameter.ofText?, hcut]
  dsimp only
  split <;> rfl

/-! ## Texts put together -/

variable {TakesAxis : List Char → List Char → Prop} {IsAxis : List Char → Prop}

theorem Dropped.blanks {before after l r : List Char} (h : Dropped IsAxis before after)
    (hl : ∀ c ∈ l, isBlank c = true) (hr : ∀ c ∈ r, isBlank c = true) :
    Dropped IsAxis (l ++ before) (after ++ r) := by
  obtain ⟨axis, skipped, parameter, blanks, rfl, hlist, haxis, hsingle, hblanks⟩ := h
  refine ⟨l ++ axis, skipped, parameter, blanks ++ r, (List.append_assoc ..).symm, ?_, ?_, hsingle,
    ?_⟩
  · rw [← List.cons_append, ← List.append_assoc, hlist, List.append_assoc, List.cons_append]
  · rwa [trim_append_of_blank_left hl]
  · rwa [trim_append_of_blank_right hr]

theorem Ignored.append {before after : List Char} (h : Ignored TakesAxis before after)
    (t : List Char) : Ignored TakesAxis before (after ++ t) := by
  obtain ⟨head, name, b, c, tail, hbefore, rfl, hhead, hdropped⟩ := h
  exact ⟨head, name, b, c, tail ++ t, hbefore, by simp, hhead, hdropped⟩

theorem Ignored.behind {before after : List Char} (h : Ignored TakesAxis before after)
    (u : List Char) {d : Char} (hd : isDelimiter d = true) :
    Ignored TakesAxis (u ++ d :: before) after := by
  obtain ⟨head, name, b, c, tail, rfl, hafter, hhead, hdropped⟩ := h
  refine ⟨u ++ d :: head, name, b, c, tail, by simp, hafter, ?_, hdropped⟩
  intro x hx
  rw [List.getLast?_append, List.getLast?_cons] at hx
  cases hlast : head.getLast? with
  | none =>
    rw [hlast] at hx
    obtain rfl := Option.some.inj hx
    exact hd
  | some y =>
    rw [hlast] at hx
    obtain rfl := Option.some.inj hx
    exact hhead y hlast

theorem Ignored.blanks {before after l : List Char} (h : Ignored TakesAxis before after)
    (hl : ∀ c ∈ l, isBlank c = true) : Ignored TakesAxis (l ++ before) after := by
  obtain ⟨head, name, b, c, tail, rfl, hafter, hhead, hdropped⟩ := h
  cases head with
  | nil =>
    refine ⟨[], l ++ name, b, c, tail, by simp, hafter, by simp, ?_⟩
    rwa [trim_append_of_blank_left hl]
  | cons x head =>
    refine ⟨l ++ x :: head, name, b, c, tail, by simp, hafter, ?_, hdropped⟩
    rwa [List.getLast?_append_of_ne_nil _ (by simp)]

namespace Harmless

theorem of_plain {s : List Char} (hs : Plain s) : Harmless TakesAxis IsAxis s :=
  fun before after heq _ => absurd heq (hs.ne_append_cons (c := ',') rfl before after)

theorem ignored {s before after : List Char} (h : Harmless TakesAxis (fun _ => False) s)
    (heq : s = before ++ ',' :: after) (hdangling : Dangling after) :
    Ignored TakesAxis before after :=
  (h before after heq hdangling).resolve_right fun ⟨_, _, _, _, _, _, hfalse, _⟩ => hfalse

theorem imp {IsAxis' : List Char → Prop} {s : List Char} (h : Harmless TakesAxis IsAxis s)
    (himp : ∀ axis, IsAxis axis → IsAxis' axis) : Harmless TakesAxis IsAxis' s := by
  intro before after heq hdangling
  refine (h before after heq hdangling).imp_right ?_
  rintro ⟨axis, skipped, parameter, blanks, hbefore, hlist, haxis, hsingle⟩
  exact ⟨axis, skipped, parameter, blanks, hbefore, hlist, himp _ haxis, hsingle⟩

theorem of_trim {s : List Char} (h : Harmless TakesAxis IsAxis (trim s)) :
    Harmless TakesAxis IsAxis s := by
  intro before after heq hdangling
  obtain ⟨l, r, hl, hr, hs⟩ := exists_trim s
  rw [hs, List.append_assoc] at heq
  -- The comma is neither in the blanks at the front nor in those at the end.
  rcases append_eq_append_cons heq with ⟨b, rfl, hplace⟩ | ⟨m, hplace, -⟩
  · rcases append_eq_append_cons hplace with ⟨m, -, hend⟩ | ⟨c, hmiddle, rfl⟩
    · exact absurd hend ((plain_of_blank hr).ne_append_cons (c := ',') rfl _ _)
    · rcases h b c hmiddle hdangling.of_append with hignored | hdropped
      · exact .inl ((hignored.append r).blanks hl)
      · exact .inr (hdropped.blanks hl hr)
  · exact absurd hplace ((plain_of_blank hl).ne_append_cons (c := ',') rfl _ _)

theorem comma {a s : List Char} {k : Nat} (ha : Plain a) (hn : nesting? s = some k)
    (hs : trim s ≠ []) (h : Harmless TakesAxis (fun _ => False) s) :
    Harmless TakesAxis IsAxis (a ++ ',' :: s) := by
  intro before after heq hdangling
  rcases append_eq_append_cons heq with ⟨m, rfl, hplace⟩ | ⟨m, hplace, -⟩
  · cases m with
    | nil =>
      obtain ⟨-, rfl⟩ := List.cons.inj hplace
      exact absurd hdangling (not_dangling hn hs)
    | cons x m =>
      obtain ⟨rfl, hrest⟩ := List.cons.inj hplace
      exact .inl ((h.ignored hrest hdangling).behind a rfl)
  · exact absurd hplace (ha.ne_append_cons (c := ',') rfl _ _)

theorem group {a inside s : List Char} (ha : Plain a)
    (hinside : Harmless TakesAxis (TakesAxis (trim a)) inside)
    (h : Harmless TakesAxis (fun _ => False) s) :
    Harmless TakesAxis IsAxis (a ++ '(' :: (inside ++ ')' :: s)) := by
  intro before after heq hdangling
  left
  rcases append_eq_append_cons heq with ⟨m, rfl, hopen⟩ | ⟨m, hplace, -⟩
  · obtain ⟨b, rfl, hlist⟩ := cons_eq_append_cons hopen (by decide)
    rcases append_eq_append_cons hlist with ⟨m, rfl, hclose⟩ | ⟨c, rfl, rfl⟩
    · obtain ⟨b, rfl, hrest⟩ := cons_eq_append_cons hclose (by decide)
      have hbehind := (h.ignored hrest hdangling).behind (a ++ '(' :: inside) (d := ')') rfl
      simpa using hbehind
    · rcases hinside b c rfl hdangling.of_append with hignored | hdropped
      · exact (hignored.append (')' :: s)).behind a rfl
      · exact ⟨[], a, b, c, s, rfl, rfl, by simp, hdropped⟩
  · exact absurd hplace (ha.ne_append_cons (c := ',') rfl _ _)

theorem of_afterPhrase? {s rest : List Char} {k : Nat} (hs : afterPhrase? s = some rest)
    (hn : nesting? s = some k) (h : Harmless TakesAxis (fun _ => False) rest) :
    Harmless TakesAxis (fun _ => False) s := by
  cases s using fields_cases with
  | field _ ha => exact .of_plain ha
  | delimiter a c s ha hc =>
    rw [afterPhrase?_append_cons ha hc] at hs
    split at hs
    · rename_i hcomma
      obtain ⟨-, rfl, hmore⟩ := hcomma
      obtain rfl := Option.some.inj hs
      rw [nesting?_plain_comma ha] at hn
      exact .comma ha hn hmore (.of_trim h)
    · cases hs

/-- A text is harmless if the parameters of its first phrase and what follows the phrase are. -/
theorem of_phrase {s : List Char} {p : Phrase} {k : Nat} (hs : Phrase.ofText? s = some p)
    (hn : nesting? s = some k) (hparams : Harmless TakesAxis (TakesAxis p.name) p.params)
    (hrest : Harmless TakesAxis (fun _ => False) p.rest) :
    Harmless TakesAxis (fun _ => False) s := by
  cases s using fields_cases with
  | field _ ha => exact .of_plain ha
  | delimiter a c s ha hc =>
    rcases isDelimiter_iff.1 hc with rfl | rfl | rfl
    · rw [ofText?_open ha] at hs
      obtain ⟨⟨inside, after⟩, hcut, hs⟩ := Option.bind_eq_some_iff.1 hs
      obtain ⟨rest, hafter, hs⟩ := Option.bind_eq_some_iff.1 hs
      rw [nesting?, nestingFrom_plain_append ha.notParenthesis] at hn
      obtain ⟨-, j, -, hnafter⟩ := nesting?_inside hcut hn
      split at hs
      · cases hs
      · obtain rfl := Option.some.inj hs
        rw [splitClose?_eq_append hcut]
        exact .group ha (.of_trim hparams) (.of_afterPhrase? hafter hnafter hrest)
    · rw [ofText?_close ha] at hs
      cases hs
    · rw [ofText?_comma ha] at hs
      rw [nesting?_plain_comma ha] at hn
      split at hs
      · cases hs
      · rename_i hmore
        obtain rfl := Option.some.inj hs
        exact .comma ha hn hmore (.of_trim hrest)

end Harmless

end VirtualPad.Language
