import VirtualPad.Actuator.Parser
import VirtualPad.Proofs.ElementMapper.First
import VirtualPad.Proofs.Language.Commas

/-!
# Dangling commas in texts that are read

Nothing may follow a comma but a further phrase or parameter, and the readers see to that with one
exception. A list of an axis and a direction takes a second part that cannot be cut for one that is
missing, so an axis may be followed by any parameter and a dangling comma: both are passed over and
the axis counts in both directions. `axisParams_iff` says which lists are accepted, and
`parse_dangling` that no other dangling comma is.
-/

namespace VirtualPad

open VirtualPad.Language

/-- What the axes in the parameters of a type of element mapper are. -/
def Language.MapperForm.IsAxis : MapperForm → List Char → Prop
  | .axis, s => (axisOfText? s).isSome
  | .digitalAxis, s => (axisOfText? s).isSome
  | .mouseAxis, s => (mouseAxisOfText? s).isSome
  | _, _ => False

/-- What the axes in the parameters of an actuator mode are, if its second parameter is optional. -/
def Language.ActuatorForm.IsAxis : ActuatorForm → List Char → Prop
  | .singleAxis, s => (axisOfText? s).isSome
  | _, _ => False

namespace ElementMapper

/-! ## Axes and directions -/

/-- The lists that are read as an axis and a direction. The last kind is read by an oversight: the
second parameter cannot be cut off, and is taken for one that is missing. -/
inductive AxisList {α : Type} (axisOf? : List Char → Option α) :
    List Char → α → AxisDirection → Prop
  | axis {s : List Char} {a : α} :
      Single s → axisOf? (trim s) = some a → AxisList axisOf? s a .both
  | direction {s t : List Char} {a : α} {d : AxisDirection} :
      Single s → axisOf? (trim s) = some a → Single t → directionOfText? (trim t) = some d →
        AxisList axisOf? (s ++ ',' :: t) a d
  | dropped {s t blanks : List Char} {a : α} :
      Single s → axisOf? (trim s) = some a → Single t → trim blanks = [] →
        AxisList axisOf? (s ++ ',' :: (t ++ ',' :: blanks)) a .both

section

variable {α : Type} {axisOf? : List Char → Option α}

theorem axisParams_eq_ok_iff {p : List Char} {a : α} {d : AxisDirection} :
    axisParams axisOf? p = .ok (a, d) ↔
      (Parameter.ofText p).first ≠ [] ∧ axisOf? (Parameter.ofText p).first = some a ∧
        (if (Parameter.ofText (Parameter.ofText p).rest).first = [] then d = .both
          else directionOfText? (Parameter.ofText (Parameter.ofText p).rest).first = some d) ∧
        (Parameter.ofText (Parameter.ofText p).rest).rest = [] := by
  unfold axisParams
  dsimp only
  generalize Parameter.ofText (Parameter.ofText p).rest = direction
  generalize (Parameter.ofText p).first = axis
  by_cases hnil : axis = []
  · simp [hnil]
  · rw [if_neg hnil]
    cases haxis : axisOf? axis with
    | none => simp
    | some a' =>
      by_cases hboth : direction.first = []
      · by_cases hrest : direction.rest = []
        · simp [hboth, hrest, hnil, eq_comm]
        · simp [hboth, hrest]
      · cases hdirection : directionOfText? direction.first with
        | none => simp [hboth]
        | some d' =>
          by_cases hrest : direction.rest = []
          · simp [hboth, hrest, hnil]
          · simp [hboth, hrest]

/-- What stands behind the comma after an axis: a direction, or a parameter that is dropped. -/
theorem behindAxis_iff {m : List Char} {k : Nat} (hn : nesting? m = some k) (hm : trim m ≠ [])
    {d : AxisDirection} :
    ((if (Parameter.ofText (trim m)).first = [] then d = .both
        else directionOfText? (Parameter.ofText (trim m)).first = some d) ∧
      (Parameter.ofText (trim m)).rest = []) ↔
      Single m ∧ directionOfText? (trim m) = some d ∨
        d = .both ∧ ∃ t blanks, m = t ++ ',' :: blanks ∧ Single t ∧ trim blanks = [] := by
  constructor
  · rintro ⟨hdirection, hrest⟩
    rw [← nesting?_trim] at hn
    rcases single_or_cut hn with hsingle | ⟨t, b, ht, hsingle⟩
    · rw [ofText_single hsingle, trim_trim, if_neg hm] at hdirection
      exact .inl ⟨hsingle.of_trim, hdirection⟩
    · rw [ht, ofText_cut hsingle] at hdirection hrest
      by_cases hb : trim b = []
      · rw [if_pos hb, if_pos rfl] at hdirection
        obtain ⟨l, r, hl, hr, hs⟩ := exists_trim m
        refine .inr ⟨hdirection, l ++ t, b ++ r, ?_, (plain_of_blank hl).single.append hsingle, ?_⟩
        · rw [hs, ht]
          simp
        · rw [trim_append_of_blank_right hr, hb]
      · rw [if_neg hb] at hrest
        exact absurd hrest hb
  · rintro (⟨-, hdirection⟩ | ⟨rfl, t, blanks, rfl, hsingle, hblanks⟩)
    · have hplain : Plain (trim m) :=
        plain_of_eq_some directionOfText?_of_not_plain hdirection
      rw [ofText_single hplain.single, trim_trim, if_neg hm]
      exact ⟨hdirection, rfl⟩
    · rw [trim_append_cons (by decide), ofText_cut hsingle.trimStart, trim_trimEnd, if_pos hblanks]
      exact ⟨rfl, rfl⟩

/-- Exactly such lists are accepted, if axes are plain words. -/
theorem axisParams_iff (hplain : ∀ s, ¬Plain s → axisOf? s = none) (hempty : axisOf? [] = none)
    {p : List Char} {k : Nat} (hn : nesting? p = some k) {a : α} {d : AxisDirection} :
    axisParams axisOf? p = .ok (a, d) ↔ AxisList axisOf? p a d := by
  have hnil : Parameter.ofText [] = ⟨[], []⟩ := rfl
  have hne {s : List Char} {b : α} (h : axisOf? (trim s) = some b) : trim s ≠ [] := by
    intro hblank
    rw [hblank, hempty] at h
    cases h
  have hbehind {s m : List Char} {b : α} (h : axisOf? (trim s) = some b)
      (hn : nesting? (s ++ ',' :: m) = some k) : nesting? m = some k := by
    rwa [nesting?_plain_comma (plain_of_eq_some hplain h).of_trim] at hn
  rw [axisParams_eq_ok_iff]
  constructor
  · rintro ⟨hfirst, haxis, hlist⟩
    rcases single_or_cut hn with hsingle | ⟨s, m, rfl, hsingle⟩
    · rw [ofText_single hsingle] at haxis hlist
      rw [hnil, if_pos rfl] at hlist
      exact hlist.1 ▸ .axis hsingle haxis
    · rw [ofText_cut hsingle] at hfirst haxis hlist
      by_cases hm : trim m = []
      · rw [if_pos hm] at hfirst
        exact absurd rfl hfirst
      · rw [if_neg hm] at haxis hlist
        rcases (behindAxis_iff (hbehind haxis hn) hm).1 hlist with
          ⟨hm, hdirection⟩ | ⟨rfl, t, blanks, rfl, ht, hblanks⟩
        · exact .direction hsingle haxis hm hdirection
        · exact .dropped hsingle haxis ht hblanks
  · intro h
    cases h with
    | axis hsingle haxis =>
      rw [ofText_single hsingle]
      exact ⟨hne haxis, haxis, rfl, rfl⟩
    | @direction s t a d hsingle haxis ht hdirection =>
      have hm : trim t ≠ [] := by
        intro hblank
        rw [hblank] at hdirection
        cases hdirection
      rw [ofText_cut hsingle, if_neg hm]
      exact ⟨hne haxis, haxis,
        (behindAxis_iff (hbehind haxis hn) hm).2 (.inl ⟨ht, hdirection⟩)⟩
    | @dropped s t blanks a hsingle haxis ht hblanks =>
      have hm : trim (t ++ ',' :: blanks) ≠ [] := by
        rw [trim_append_cons (by decide)]
        simp
      rw [ofText_cut hsingle, if_neg hm]
      exact ⟨hne haxis, haxis,
        (behindAxis_iff (hbehind haxis hn) hm).2 (.inr ⟨rfl, t, blanks, rfl, ht, hblanks⟩)⟩

theorem harmless_of_axisParams {TakesAxis : List Char → List Char → Prop}
    (hplain : ∀ s, ¬Plain s → axisOf? s = none) (hempty : axisOf? [] = none) {p : List Char}
    {k : Nat} (hn : nesting? p = some k) {x : α × AxisDirection}
    (h : axisParams axisOf? p = .ok x) :
    Harmless TakesAxis (fun s => (axisOf? s).isSome) p := by
  obtain ⟨a, d⟩ := x
  cases (axisParams_iff hplain hempty hn).1 h with
  | axis _ haxis => exact .of_plain (plain_of_eq_some hplain haxis).of_trim
  | @direction s t a d hsingle haxis ht hdirection =>
    have hs : Plain s := (plain_of_eq_some hplain haxis).of_trim
    have ht : Plain t :=
      (plain_of_eq_some directionOfText?_of_not_plain hdirection).of_trim
    have hblank : trim t ≠ [] := by
      intro hblank
      rw [hblank] at hdirection
      cases hdirection
    rw [nesting?_plain_comma hs] at hn
    exact .comma hs hn hblank (.of_plain ht)
  | @dropped s t blanks a hsingle haxis ht hblanks =>
    have hs : Plain s := (plain_of_eq_some hplain haxis).of_trim
    have hblank : trim (t ++ ',' :: blanks) ≠ [] := by
      rw [trim_append_cons (by decide)]
      simp
    rw [nesting?_plain_comma hs] at hn
    intro before after heq hdangling
    rcases append_eq_append_cons heq with ⟨m, rfl, hplace⟩ | ⟨m, hplace, -⟩
    · cases m with
      | nil =>
        obtain ⟨-, rfl⟩ := List.cons.inj hplace
        exact absurd hdangling (not_dangling hn hblank)
      | cons c m =>
        obtain ⟨rfl, hlist⟩ := List.cons.inj hplace
        exact .inr ⟨s, m, t, blanks, rfl, hlist.symm, by simp [haxis], ht, hblanks⟩
    · exact absurd hplace (hs.ne_append_cons (c := ',') rfl _ _)

end

/-! ## Trees -/

/-- Whether a text is an axis in the parameters of a mapper whose type has a given name. -/
def TakesAxis (name axis : List Char) : Prop :=
  ∃ form, MapperForm.ofText? name = some form ∧ form.IsAxis axis

theorem required_eq_ok {α : Type} {form : String} {value : Option α} {fault : ParameterFault}
    {a : α} (h : required form value fault = .ok a) : value = some a := by
  cases value with
  | none => cases h
  | some b => exact congrArg some (Except.ok.inj h)

theorem harmless_of_leafOfParams {form : MapperForm} {p : List Char} {t : ElementMapper} {k : Nat}
    (hn : nesting? p = some k) (h : leafOfParams form p = .ok t) :
    Harmless TakesAxis form.IsAxis p := by
  cases form with
  | axis | digitalAxis =>
    obtain ⟨x, hx, -⟩ := map_eq_ok.1 h
    exact harmless_of_axisParams axisOfText?_of_not_plain rfl hn
      (inPlace_eq_ok.1 hx)
  | mouseAxis =>
    obtain ⟨x, hx, -⟩ := map_eq_ok.1 h
    exact harmless_of_axisParams mouseAxisOfText?_of_not_plain rfl hn
      (inPlace_eq_ok.1 hx)
  | button =>
    obtain ⟨b, hb, -⟩ := map_eq_ok.1 h
    obtain ⟨n, hnumber, -⟩ := Option.bind_eq_some_iff.1 (required_eq_ok hb)
    exact .of_plain (plain_of_eq_some decimal?_of_not_plain hnumber)
  | keyboard =>
    obtain ⟨b, hb, -⟩ := map_eq_ok.1 h
    exact .of_plain (plain_of_eq_some keyOfParams?_of_not_plain (required_eq_ok hb))
  | mouseButton =>
    obtain ⟨b, hb, -⟩ := map_eq_ok.1 h
    exact .of_plain
      (plain_of_eq_some mouseButtonOfText?_of_not_plain (required_eq_ok hb))
  | pov =>
    obtain ⟨b, hb, -⟩ := map_eq_ok.1 h
    exact .of_plain (plain_of_eq_some povOfText?_of_not_plain (required_eq_ok hb))
  | _ =>
    unfold leafOfParams at h
    dsimp only at h
    split at h
    · rename_i hnil
      rw [hnil]
      exact .of_plain (by decide)
    · cases h

/-- The step: one mapper is read off a text. -/
theorem harmless_of_first {s rest : List Char} {t : ElementMapper} {k : Nat}
    (hn : nesting? s = some k) (h : first s = .ok (t, rest))
    (hparams : ∀ form p t j, p.length < s.length → nesting? p = some j →
      ofParams form p = .ok t → Harmless TakesAxis form.IsAxis p) :
    (∃ j, nesting? rest = some j) ∧ (Harmless TakesAxis (fun _ => False) rest →
      Harmless TakesAxis (fun _ => False) s) := by
  cases hs : Phrase.ofText? s with
  | none =>
    rw [first_of_none hs] at h
    cases h
  | some p =>
    rw [first_of_some hs] at h
    obtain ⟨t, hphrase, heq⟩ := map_eq_ok.1 h
    obtain ⟨-, rfl⟩ := Prod.mk.inj heq
    obtain ⟨i, hi⟩ := Phrase.exists_nesting?_params hs hn
    obtain ⟨-, j, -, hafter⟩ := Phrase.ofText?_nesting hs hn
    refine ⟨⟨j, hafter⟩, Harmless.of_phrase hs hn ?_⟩
    unfold ofPhrase at hphrase
    split at hphrase
    · cases hphrase
    · rename_i hname
      split at hphrase
      · cases hphrase
      · rename_i form hform
        have hread := hparams form p.params t i (Phrase.params_lt hs hname) hi hphrase
        exact hread.imp fun axis haxis => ⟨form, hform, haxis⟩

/-- The run: children are read one after another. -/
theorem harmless_of_children {number : Nat} {s : List Char} {ts : List ElementMapper} {k : Nat}
    (hn : nesting? s = some k) (h : children number s = .ok ts)
    (hparams : ∀ form p t j, p.length < s.length → nesting? p = some j →
      ofParams form p = .ok t → Harmless TakesAxis form.IsAxis p) :
    Harmless TakesAxis (fun _ => False) s := by
  induction hlength : s.length using Nat.strong_induction_on generalizing number s ts k with
  | _ n ih =>
    subst hlength
    rw [children_eq] at h
    split at h
    · cases h
    · obtain ⟨⟨child, rest⟩, hfirst, h⟩ := bind_eq_ok.1 h
      have hfirst := inPlace_eq_ok.1 hfirst
      have hlt := rest_lt_of_first hfirst
      obtain ⟨⟨j, hj⟩, hstep⟩ := harmless_of_first hn hfirst hparams
      refine hstep ?_
      dsimp only at h
      split at h
      · rename_i hnil
        rw [hnil]
        exact .of_plain (by decide)
      · obtain ⟨ts, hmore, -⟩ := bind_eq_ok.1 h
        have hparams' := fun form p t j (hp : p.length < rest.length) =>
          hparams form p t j (hp.trans hlt)
        exact ih rest.length hlt hj hmore hparams' rfl

theorem eq_nil_of_noMore {form : String} {rest : List Char} {u : Unit}
    (h : noMore form rest = .ok u) : rest = [] := by
  unfold noMore at h
  split at h
  · assumption
  · cases h

theorem harmless_of_ofParams {form : MapperForm} {p : List Char} {t : ElementMapper} {k : Nat}
    (hn : nesting? p = some k) (h : ofParams form p = .ok t) :
    Harmless TakesAxis form.IsAxis p := by
  induction hlength : p.length using Nat.strong_induction_on generalizing form p t k with
  | _ n ih =>
    subst hlength
    have hparams (form : MapperForm) (p' : List Char) (t : ElementMapper) (j : Nat)
        (hlt : p'.length < p.length) (hn : nesting? p' = some j) (h : ofParams form p' = .ok t) :
        Harmless TakesAxis form.IsAxis p' := ih p'.length hlt hn h rfl
    have hnil : Harmless TakesAxis (fun _ => False) [] := .of_plain (by decide)
    cases form with
    | invert =>
      rw [ofParams_invert] at h
      obtain ⟨⟨child, rest⟩, hfirst, h⟩ := bind_eq_ok.1 h
      obtain ⟨u, hmore, -⟩ := bind_eq_ok.1 h
      have hstep := (harmless_of_first hn (inPlace_eq_ok.1 hfirst) hparams).2
      exact (hstep (eq_nil_of_noMore hmore ▸ hnil)).imp fun _ h => h.elim
    | split =>
      rw [ofParams_split] at h
      obtain ⟨⟨positive, rest⟩, hfirst, h⟩ := bind_eq_ok.1 h
      obtain ⟨⟨negative, more⟩, hsecond, h⟩ := bind_eq_ok.1 h
      obtain ⟨u, hmore, -⟩ := bind_eq_ok.1 h
      have hfirst := inPlace_eq_ok.1 hfirst
      have hlt := rest_lt_of_first hfirst
      obtain ⟨⟨j, hj⟩, hstep⟩ := harmless_of_first hn hfirst hparams
      have hstep' := (harmless_of_first hj (inPlace_eq_ok.1 hsecond)
        fun form p t j hp => hparams form p t j (hp.trans hlt)).2
      exact (hstep (hstep' (eq_nil_of_noMore hmore ▸ hnil))).imp fun _ h => h.elim
    | compound =>
      rw [ofParams] at h
      obtain ⟨ts, hchildren, -⟩ := map_eq_ok.1 h
      exact (harmless_of_children hn hchildren hparams).imp fun _ h => h.elim
    | _ =>
      rw [ofParams] at h
      · exact harmless_of_leafOfParams hn h
      all_goals simp

theorem harmless_of_parse {text : String} {t : ElementMapper} (h : parse text = .ok t) :
    Harmless TakesAxis (fun _ => False) text.toList := by
  unfold parse ofChars at h
  split at h
  · cases h
  · rename_i k hn
    split at h
    · cases h
    · split at h
      · cases h
      · rename_i mapper rest hfirst
        split at h
        · rename_i hnil
          have hstep := (harmless_of_first hn hfirst fun form p t j _ => harmless_of_ofParams).2
          exact hstep (hnil ▸ .of_plain (by decide))
        · cases h

end ElementMapper

/-! ## Actuator modes -/

namespace ActuatorMode

/-- Whether a text is an axis in the parameters of a mode with a given name. -/
def TakesAxis (name axis : List Char) : Prop :=
  ∃ form, ActuatorForm.ofText? name = some form ∧ form.IsAxis axis

theorem projectionAxis_eq_ok {ordinal : String} {s rest : List Char} {a : Axis}
    (h : projectionAxis ordinal s = .ok (a, rest)) :
    (Parameter.ofText s).first ≠ [] ∧ axisOfText? (Parameter.ofText s).first = some a ∧
      (Parameter.ofText s).rest = rest := by
  unfold projectionAxis at h
  dsimp only at h
  split at h
  · cases h
  · rename_i hfirst
    split at h
    · cases h
    · rename_i b hb
      obtain ⟨rfl, hrest⟩ := Prod.mk.inj (Except.ok.inj h)
      exact ⟨hfirst, hb, hrest⟩

theorem plain_of_projectionAxis {ordinal : String} {s : List Char} {a : Axis} {k : Nat}
    (hn : nesting? s = some k) (h : projectionAxis ordinal s = .ok (a, [])) : Plain s := by
  obtain ⟨hfirst, haxis, hrest⟩ := projectionAxis_eq_ok h
  rcases single_or_cut hn with hsingle | ⟨f, m, rfl, hsingle⟩
  · rw [ofText_single hsingle] at haxis
    exact (plain_of_eq_some axisOfText?_of_not_plain haxis).of_trim
  · rw [ofText_cut hsingle] at hfirst hrest
    by_cases hm : trim m = []
    · rw [if_pos hm] at hfirst
      exact absurd rfl hfirst
    · rw [if_neg hm] at hrest
      exact absurd hrest hm

theorem harmless_of_projection {IsAxis : List Char → Prop} {p : List Char} {mode : ActuatorMode}
    {k : Nat} (hn : nesting? p = some k) (h : projection p = .ok mode) :
    Harmless TakesAxis IsAxis p := by
  unfold projection at h
  obtain ⟨⟨a, rest⟩, ha, h⟩ := bind_eq_ok.1 h
  obtain ⟨⟨b, more⟩, hb, h⟩ := bind_eq_ok.1 h
  dsimp only at h hb
  split at h
  · cases h
  · simp only [bind, Except.bind, pure, Except.pure] at h
    have hmore : more = [] := by
      by_contra hne
      rw [if_pos hne] at h
      cases h
    subst hmore
    obtain ⟨hfirst, haxis, hrest⟩ := projectionAxis_eq_ok ha
    rcases single_or_cut hn with hsingle | ⟨f, m, rfl, hsingle⟩
    · rw [ofText_single hsingle] at haxis
      exact .of_plain (plain_of_eq_some axisOfText?_of_not_plain haxis).of_trim
    · rw [ofText_cut hsingle] at hfirst haxis hrest
      by_cases hm : trim m = []
      · rw [if_pos hm] at hfirst
        exact absurd rfl hfirst
      · rw [if_neg hm] at haxis hrest
        obtain rfl : trim m = rest := hrest
        have hf : Plain f := (plain_of_eq_some axisOfText?_of_not_plain haxis).of_trim
        rw [nesting?_plain_comma hf] at hn
        have hplain : Plain m := (plain_of_projectionAxis (by rw [nesting?_trim, hn]) hb).of_trim
        exact .comma hf hn hm (.of_plain hplain)

theorem harmless_of_ofParams {form : ActuatorForm} {p : List Char} {mode : ActuatorMode} {k : Nat}
    (hn : nesting? p = some k) (h : ofParams form p = .ok mode) :
    Harmless TakesAxis form.IsAxis p := by
  have hplain {name : String} {mode mode' : ActuatorMode} (h : plain name mode p = .ok mode') :
      Plain p := by
    unfold plain at h
    split at h
    · rename_i hnil
      rw [hnil]
      decide
    · cases h
  cases form with
  | disabled => exact .of_plain (hplain h)
  | standard => exact .of_plain (hplain h)
  | singleAxis =>
    obtain ⟨x, hx, -⟩ := map_eq_ok.1 h
    exact ElementMapper.harmless_of_axisParams axisOfText?_of_not_plain rfl hn
      (inPlace_eq_ok.1 hx)
  | magnitudeProjection => exact harmless_of_projection hn h

theorem harmless_of_parse {text : String} {mode : ActuatorMode} (h : parse text = .ok mode) :
    Harmless TakesAxis (fun _ => False) text.toList := by
  unfold parse ofChars at h
  split at h
  · cases h
  · rename_i k hn
    split at h
    · cases h
    · unfold ofPhrase at h
      split at h
      · cases h
      · rename_i p hs
        obtain ⟨i, hi⟩ := Phrase.exists_nesting?_params hs hn
        split at h
        · cases h
        · rename_i hrest
          split at h
          · cases h
          · split at h
            · cases h
            · rename_i form hform
              refine .of_phrase hs hn ?_ (Decidable.not_not.1 hrest ▸ .of_plain (by decide))
              exact (harmless_of_ofParams hi h).imp fun axis haxis => ⟨form, hform, haxis⟩

end ActuatorMode

/-! ## Dangling commas -/

namespace Language

/-- A text with a dangling comma is an error, unless the comma stands in a list of an axis, one
further parameter and a last comma: as that last one, or within the parameter. Such a list reads as
its axis with both directions, whatever the parameter is. -/
theorem parse_dangling (text : String) (before after : List Char)
    (hplace : text.toList = before ++ ',' :: after) (hdangling : Dangling after) :
    ((∃ e, ElementMapper.parse text = .error e) ∨ Ignored ElementMapper.TakesAxis before after) ∧
    ((∃ e, ActuatorMode.parse text = .error e) ∨ Ignored ActuatorMode.TakesAxis before after) ∧
    (∀ params k a d, nesting? params = some k →
      (ElementMapper.axisParams axisOfText? params = .ok (a, d) ↔
        ElementMapper.AxisList axisOfText? params a d)) ∧
    ∀ params k a d, nesting? params = some k →
      (ElementMapper.axisParams mouseAxisOfText? params = .ok (a, d) ↔
        ElementMapper.AxisList mouseAxisOfText? params a d) := by
  refine ⟨?_, ?_, fun params k a d hn => ?_, fun params k a d hn => ?_⟩
  · cases h : ElementMapper.parse text with
    | error e => exact .inl ⟨e, rfl⟩
    | ok t => exact .inr ((ElementMapper.harmless_of_parse h).ignored hplace hdangling)
  · cases h : ActuatorMode.parse text with
    | error e => exact .inl ⟨e, rfl⟩
    | ok mode => exact .inr ((ActuatorMode.harmless_of_parse h).ignored hplace hdangling)
  · exact ElementMapper.axisParams_iff axisOfText?_of_not_plain rfl hn
  · exact ElementMapper.axisParams_iff mouseAxisOfText?_of_not_plain rfl hn

/-- A comma behind a direction. The direction is passed over, and both readers accept the text. -/
theorem dangling_accepted :
    ("Axis(X, +,)".toList = "Axis(X, +".toList ++ ',' :: ")".toList ∧ Dangling ")".toList ∧
      ElementMapper.parse "Axis(X, +,)" = .ok (.axis .x .both)) ∧
    "SingleAxis(X, +,)".toList = "SingleAxis(X, +".toList ++ ',' :: ")".toList ∧
      ActuatorMode.parse "SingleAxis(X, +,)" = .ok (.singleAxis .x .both) := by
  refine ⟨⟨rfl, by decide, ?_⟩, rfl, ?_⟩
  · with_unfolding_all rfl
  · with_unfolding_all rfl

/-- The comma is within a parameter that is passed over, since another one follows. -/
theorem parse_dangling_nested :
    let before := "Split(Null, MouseAxis(H, Foo(".toList
    let after := "),))".toList
    ElementMapper.parse "Split(Null, MouseAxis(H, Foo(,),))" =
        .ok (.split .null (.mouseAxis .x .both)) ∧
      Dangling after ∧ Ignored ElementMapper.TakesAxis before after := by
  intro before after
  have hread : ElementMapper.parse "Split(Null, MouseAxis(H, Foo(,),))" =
      .ok (.split .null (.mouseAxis .x .both)) := by
    with_unfolding_all rfl
  have hdangling : Dangling after := by decide
  obtain ⟨hignored, -⟩ :=
    parse_dangling "Split(Null, MouseAxis(H, Foo(,),))" before after rfl hdangling
  exact ⟨hread, hdangling, hignored.resolve_left (by simp [hread])⟩

end Language

end VirtualPad
