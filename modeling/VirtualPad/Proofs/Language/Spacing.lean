import VirtualPad.Actuator.Parser
import VirtualPad.Proofs.ElementMapper.First
import VirtualPad.Proofs.Language.Respaced

/-!
# Spacing

Blanks next to parentheses and commas do not matter to the readers of element mappers and actuator
modes, and this holds of texts that they reject as well (`parse_respaced`). Of two such texts either
both are rejected or both are read as the same value.

Not so the errors: they quote the text. So `Agree` relates the results of two readers up to their
errors, and every function of a reader agrees with itself on `Alike` pieces. The recursion is on the
length of one of the two texts; the other one has the same phrases.
-/

namespace VirtualPad

open VirtualPad.Language

namespace Language

/-! ## Results that agree -/

/-- Both results are errors, or both are values in a relation. -/
inductive Agree {α β : Type} (r : α → β → Prop) : Except ParseError α → Except ParseError β → Prop
  | ok {a : α} {b : β} : r a b → Agree r (.ok a) (.ok b)
  | error (e e' : ParseError) : Agree r (.error e) (.error e')

namespace Agree

variable {α β α' β' : Type} {r : α → β → Prop} {r' : α' → β' → Prop} {x : Except ParseError α}
  {y : Except ParseError β}

theorem bind (h : Agree r x y) {f : α → Except ParseError α'} {g : β → Except ParseError β'}
    (hr : ∀ a b, r a b → Agree r' (f a) (g b)) : Agree r' (x >>= f) (y >>= g) := by
  cases h with
  | ok h => exact hr _ _ h
  | error e e' => exact .error e e'

theorem map (h : Agree r x y) {f : α → α'} {g : β → β'} (hr : ∀ a b, r a b → r' (f a) (g b)) :
    Agree r' (x.map f) (y.map g) := by
  cases h with
  | ok h => exact .ok (hr _ _ h)
  | error e e' => exact .error e e'

theorem inPlace (h : Agree r x y) (place : Place) :
    Agree r (inPlace place x) (inPlace place y) := by
  cases h with
  | ok h => exact .ok h
  | error e e' => exact .error _ _

theorem toOption_eq {x y : Except ParseError α} (h : Agree Eq x y) : x.toOption = y.toOption := by
  cases h with
  | ok h => rw [h]
  | error e e' => rfl

end Agree

end Language

/-! ## Reading mappers -/

namespace ElementMapper

theorem axisParams_agree {α : Type} {axisOf? : List Char → Option α}
    (haxis : ∀ s, ¬Plain s → axisOf? s = none) {p q : List Char} (h : Alike p q) :
    Agree Eq (axisParams axisOf? p) (axisParams axisOf? q) := by
  obtain ⟨hfirst, hrest⟩ := h.ofText
  obtain ⟨hdirection, hmore⟩ := hrest.ofText
  unfold axisParams
  simp only [hfirst.eq_nil_iff, hfirst.lookup_eq haxis, hdirection.eq_nil_iff,
    hdirection.lookup_eq directionOfText?_of_not_plain, hmore.eq_nil_iff]
  split
  · exact .error _ _
  · split
    · exact .error _ _
    · split
      · exact .error _ _
      · split
        · exact .ok rfl
        · exact .error _ _

theorem required_agree {α : Type} (form : String) {value value' : Option α}
    (h : value = value') (fault fault' : ParameterFault) :
    Agree Eq (required form value fault) (required form value' fault') := by
  subst h
  cases value with
  | none => exact .error _ _
  | some a => exact .ok rfl

theorem leafOfParams_agree (form : MapperForm) {p q : List Char} (h : Alike p q) :
    Agree Eq (leafOfParams form p) (leafOfParams form q) := by
  have haxis := axisParams_agree axisOfText?_of_not_plain h
  have hmouse := axisParams_agree mouseAxisOfText?_of_not_plain h
  unfold leafOfParams
  cases form with
  | axis => exact (haxis.inPlace _).map (by rintro a b rfl; rfl)
  | digitalAxis => exact (haxis.inPlace _).map (by rintro a b rfl; rfl)
  | mouseAxis => exact (hmouse.inPlace _).map (by rintro a b rfl; rfl)
  | button =>
    have hnumber := h.lookup_eq decimal?_of_not_plain
    exact (required_agree _ (by rw [hnumber]) _ _).map (by rintro a b rfl; rfl)
  | keyboard =>
    exact (required_agree _ (h.lookup_eq keyOfParams?_of_not_plain) _ _).map
      (by rintro a b rfl; rfl)
  | mouseButton =>
    exact (required_agree _ (h.lookup_eq mouseButtonOfText?_of_not_plain) _ _).map
      (by rintro a b rfl; rfl)
  | pov =>
    exact (required_agree _ (h.lookup_eq povOfText?_of_not_plain) _ _).map
      (by rintro a b rfl; rfl)
  | _ =>
    simp only [h.eq_nil_iff]
    split
    · exact .ok rfl
    · exact .error _ _

theorem noMore_agree (form : String) {p q : List Char} (h : Alike p q) :
    Agree Eq (noMore form p) (noMore form q) := by
  unfold noMore
  simp only [h.eq_nil_iff]
  split
  · exact .ok rfl
  · exact .error _ _

theorem first_agree {s t : List Char} (h : Respaced s t)
    (hparams : ∀ form p q, p.length < s.length → Alike p q →
      Agree Eq (ofParams form p) (ofParams form q)) :
    Agree (fun x y => x.1 = y.1 ∧ Alike x.2 y.2 ∧ x.2.length < s.length) (first s) (first t) := by
  have hcut := h.ofText?
  cases hs : Phrase.ofText? s with
  | none =>
    rw [hs] at hcut
    cases ht : Phrase.ofText? t with
    | none =>
      rw [first_of_none hs, first_of_none ht]
      exact .error _ _
    | some q =>
      rw [ht] at hcut
      cases hcut
  | some p =>
    rw [hs] at hcut
    cases ht : Phrase.ofText? t with
    | none =>
      rw [ht] at hcut
      cases hcut
    | some q =>
      rw [ht] at hcut
      obtain ⟨hname, hp, hrest⟩ : p.name = q.name ∧ Alike p.params q.params ∧
          Alike p.rest q.rest := by
        cases hcut with
        | some h => exact h
      rw [first_of_some hs, first_of_some ht]
      unfold ofPhrase
      rw [hname]
      split
      · exact .error _ _
      · rename_i hne
        rw [← hname] at hne
        split
        · exact .error _ _
        · refine (hparams _ _ _ (Phrase.params_lt hs hne) hp).map ?_
          rintro a b rfl
          exact ⟨rfl, hrest, Phrase.rest_lt hs hne⟩

theorem children_agree (number : Nat) {s t : List Char} (h : Alike s t)
    (hparams : ∀ form p q, p.length < s.length → Alike p q →
      Agree Eq (ofParams form p) (ofParams form q)) :
    Agree Eq (children number s) (children number t) := by
  induction hn : s.length using Nat.strong_induction_on generalizing number s t with
  | _ n ih =>
    subst hn
    rw [children_eq, children_eq]
    split
    · exact .error _ _
    · refine ((first_agree h.respaced hparams).inPlace _).bind ?_
      rintro ⟨child, rest⟩ ⟨_, rest'⟩ ⟨rfl, hrest, hlt⟩
      simp only [hrest.eq_nil_iff]
      split
      · exact .ok rfl
      · refine (ih rest.length hlt (number + 1) hrest
          (fun form p q hp => hparams form p q (hp.trans hlt)) rfl).bind ?_
        rintro a b rfl
        exact .ok rfl

theorem ofParams_agree (form : MapperForm) {p q : List Char} (h : Alike p q) :
    Agree Eq (ofParams form p) (ofParams form q) := by
  induction hn : p.length using Nat.strong_induction_on generalizing form p q with
  | _ n ih =>
    subst hn
    have hparams (form : MapperForm) (p' q' : List Char) (hlt : p'.length < p.length)
        (h' : Alike p' q') : Agree Eq (ofParams form p') (ofParams form q') :=
      ih p'.length hlt form h' rfl
    cases form with
    | invert =>
      rw [ofParams_invert, ofParams_invert]
      refine ((first_agree h.respaced hparams).inPlace _).bind ?_
      rintro ⟨child, rest⟩ ⟨_, rest'⟩ ⟨rfl, hrest, -⟩
      refine (noMore_agree "Invert" hrest).bind ?_
      exact fun _ _ _ => .ok rfl
    | split =>
      rw [ofParams_split, ofParams_split]
      refine ((first_agree h.respaced hparams).inPlace _).bind ?_
      rintro ⟨positive, rest⟩ ⟨_, rest'⟩ ⟨rfl, hrest, hlt⟩
      refine ((first_agree hrest.respaced fun form p' q' hp =>
        hparams form p' q' (hp.trans hlt)).inPlace _).bind ?_
      rintro ⟨negative, more⟩ ⟨_, more'⟩ ⟨rfl, hmore, -⟩
      refine (noMore_agree "Split" hmore).bind ?_
      exact fun _ _ _ => .ok rfl
    | compound =>
      rw [ofParams, ofParams]
      exact (children_agree 1 h hparams).map (by rintro a b rfl; rfl)
    | _ =>
      rw [ofParams, ofParams]
      · exact leafOfParams_agree _ h
      all_goals simp

theorem ofChars_agree {s t : List Char} (h : Respaced s t) : Agree Eq (ofChars s) (ofChars t) := by
  have hfirst := first_agree h fun form p q _ => ofParams_agree form
  unfold ofChars
  rw [h.nesting?_eq]
  split
  · exact .error _ _
  · split
    · exact .error _ _
    · generalize first s = x, first t = y at hfirst ⊢
      cases hfirst with
      | error e e' => exact .error _ _
      | @ok x y hxy =>
        obtain ⟨htree, hrest, -⟩ := hxy
        simp only [htree, hrest.eq_nil_iff]
        split
        · exact .ok rfl
        · exact .error _ _

end ElementMapper

/-! ## Reading actuator modes -/

namespace ActuatorMode

theorem plain_agree (form : String) (mode : ActuatorMode) {p q : List Char} (h : Alike p q) :
    Agree Eq (plain form mode p) (plain form mode q) := by
  unfold plain
  simp only [h.eq_nil_iff]
  split
  · exact .ok rfl
  · exact .error _ _

theorem projectionAxis_agree (ordinal : String) {p q : List Char} (h : Alike p q) :
    Agree (fun x y => x.1 = y.1 ∧ Alike x.2 y.2) (projectionAxis ordinal p)
      (projectionAxis ordinal q) := by
  obtain ⟨hfirst, hrest⟩ := h.ofText
  unfold projectionAxis
  simp only [hfirst.eq_nil_iff, hfirst.lookup_eq axisOfText?_of_not_plain]
  split
  · exact .error _ _
  · split
    · exact .error _ _
    · exact .ok ⟨rfl, hrest⟩

theorem projection_agree {p q : List Char} (h : Alike p q) :
    Agree Eq (projection p) (projection q) := by
  unfold projection
  refine (projectionAxis_agree "first" h).bind ?_
  rintro ⟨first, rest⟩ ⟨_, rest'⟩ ⟨rfl, hrest⟩
  refine (projectionAxis_agree "second" hrest).bind ?_
  rintro ⟨second, more⟩ ⟨_, more'⟩ ⟨rfl, hmore⟩
  simp only [ne_eq, hmore.eq_nil_iff]
  split
  · exact .error _ _
  · split
    · exact .error _ _
    · exact .ok rfl

theorem ofParams_agree (form : ActuatorForm) {p q : List Char} (h : Alike p q) :
    Agree Eq (ofParams form p) (ofParams form q) := by
  cases form with
  | disabled => exact plain_agree _ _ h
  | standard => exact plain_agree _ _ h
  | singleAxis =>
    have haxis := ElementMapper.axisParams_agree axisOfText?_of_not_plain h
    exact (haxis.inPlace _).map (by rintro a b rfl; rfl)
  | magnitudeProjection => exact projection_agree h

theorem ofPhrase_agree {s t : List Char} (h : Respaced s t) :
    Agree Eq (ofPhrase s) (ofPhrase t) := by
  unfold ofPhrase
  have hcut := h.ofText?
  generalize Phrase.ofText? s = x, Phrase.ofText? t = y at hcut ⊢
  cases hcut with
  | none => exact .error _ _
  | @some p q hpq =>
    obtain ⟨hname, hparams, hrest⟩ := hpq
    simp only [ne_eq, hrest.eq_nil_iff, hname]
    split
    · exact .error _ _
    · split
      · exact .error _ _
      · split
        · exact .error _ _
        · exact ofParams_agree _ hparams

theorem ofChars_agree {s t : List Char} (h : Respaced s t) : Agree Eq (ofChars s) (ofChars t) := by
  unfold ofChars
  rw [h.nesting?_eq]
  split
  · exact .error _ _
  · split
    · exact .error _ _
    · exact ofPhrase_agree h

end ActuatorMode

/-! ## Spacing -/

namespace Language

/-- Blanks next to parentheses and commas and at the ends of a text, be it well-formed or not, have
no influence on what is read, or on whether something can be read. -/
theorem parse_respaced {s t : String} (h : Relation.EqvGen BlankInserted s.toList t.toList) :
    (ElementMapper.parse s).toOption = (ElementMapper.parse t).toOption ∧
      (ActuatorMode.parse s).toOption = (ActuatorMode.parse t).toOption := by
  unfold ElementMapper.parse ActuatorMode.parse
  generalize s.toList = s, t.toList = t at h ⊢
  induction h with
  | rel s t h =>
    exact ⟨(ElementMapper.ofChars_agree h.respaced).toOption_eq,
      (ActuatorMode.ofChars_agree h.respaced).toOption_eq⟩
  | refl s => exact ⟨rfl, rfl⟩
  | symm s t _ ih => exact ⟨ih.1.symm, ih.2.symm⟩
  | trans s t u _ _ ih ih' => exact ⟨ih.1.trans ih'.1, ih.2.trans ih'.2⟩

/-- A blank goes before the comma, and others come at the front and within the parentheses. -/
theorem parse_respaced_moved :
    Relation.EqvGen BlankInserted "Split(Null ,Axis(X))".toList "\tSplit(Null,Axis( X))".toList ∧
      ElementMapper.parse "Split(Null ,Axis(X))" = .ok (.split .null (.axis .x .both)) ∧
      (ElementMapper.parse "\tSplit(Null,Axis( X))").toOption =
        some (.split .null (.axis .x .both)) := by
  have hcomma : BlankInserted "Split(Null,Axis(X))".toList "Split(Null ,Axis(X))".toList :=
    .insert (b := ' ') "Split(Null".toList ",Axis(X))".toList rfl (.inr (by simp [isDelimiter]))
  have hfront : BlankInserted "Split(Null,Axis(X))".toList "\tSplit(Null,Axis(X))".toList :=
    .insert (b := '\t') "".toList "Split(Null,Axis(X))".toList rfl (.inl (by simp))
  have hinside : BlankInserted "\tSplit(Null,Axis(X))".toList "\tSplit(Null,Axis( X))".toList :=
    .insert (b := ' ') "\tSplit(Null,Axis(".toList "X))".toList rfl (.inl (by simp [isDelimiter]))
  have h : Relation.EqvGen BlankInserted "Split(Null ,Axis(X))".toList
      "\tSplit(Null,Axis( X))".toList :=
    .trans _ _ _ (.symm _ _ (.rel _ _ hcomma)) (.trans _ _ _ (.rel _ _ hfront) (.rel _ _ hinside))
  have hread :
      ElementMapper.parse "Split(Null ,Axis(X))" = .ok (.split .null (.axis .x .both)) := by
    with_unfolding_all rfl
  refine ⟨h, hread, ?_⟩
  rw [← (parse_respaced h).1, hread]
  rfl

end Language

end VirtualPad
