import VirtualPad.Actuator.Parser
import VirtualPad.Proofs.ElementMapper.Limits
import VirtualPad.Proofs.ElementMapper.RoundTrip

/-!
# Texts that are accepted

Spacing, synonyms and numerals leave many ways to write one tree or one actuator mode. Whatever was
written, what the readers accept keeps to the limits of the language, so that it can be written down
and read again (`accepted_read_again`).

For trees this puts together the limits of what is read (`fits_of_parse`) and the reading of what
was written. Modes have one limit of their own, two different axes for a projection: it is what
`axes_ne_of_parse` finds in the reader and what `parse_written` needs.
-/

namespace VirtualPad

open VirtualPad.Language

theorem ElementMapper.parse_of_fits {t : ElementMapper} (h : t.Fits nestingLimit) :
    parse t.render = .ok t := by
  have hn : nesting? t.render.toList = some t.depth :=
    nesting?_eq_some (piece_render h.keepsLimit).nested
  have hd : ¬ nestingLimit < t.depth := Nat.not_lt.2 h.depth_le
  rw [parse, ofChars, hn]
  simp only [if_neg hd, first_render h.keepsLimit, if_true]

/-- The spelling in which an actuator mode is written. -/
def Language.ActuatorForm.word : ActuatorForm → List Char
  | .disabled => "Disabled".toList
  | .standard => "Default".toList
  | .singleAxis => "SingleAxis".toList
  | .magnitudeProjection => "MagnitudeProjection".toList

theorem Language.ActuatorForm.word_word (f : ActuatorForm) : Word f.word := by cases f <;> decide

theorem Language.ActuatorForm.ofText?_word (f : ActuatorForm) : ofText? f.word = some f := by
  cases f <;> rfl

namespace ActuatorMode

/-! ## What is read -/

theorem projection_ne {params : List Char} {mode : ActuatorMode}
    (h : projection params = .ok mode) : ∀ a, mode ≠ .magnitudeProjection a a := by
  rw [projection] at h
  obtain ⟨⟨first, rest⟩, -, h⟩ := bind_eq_ok.1 h
  obtain ⟨⟨second, rest'⟩, -, h⟩ := bind_eq_ok.1 h
  dsimp only at h
  split at h
  · cases h
  · rename_i hne
    split at h
    · cases h
    · obtain rfl := Except.ok.inj h
      intro a ha
      obtain ⟨rfl, rfl⟩ := magnitudeProjection.inj ha
      exact hne rfl

theorem plain_eq_ok {form : String} {mode mode' : ActuatorMode} {params : List Char}
    (h : plain form mode params = .ok mode') : mode' = mode := by
  rw [plain] at h
  split at h
  · exact (Except.ok.inj h).symm
  · cases h

theorem ofParams_ne {form : ActuatorForm} {params : List Char} {mode : ActuatorMode}
    (h : ofParams form params = .ok mode) : ∀ a, mode ≠ .magnitudeProjection a a := by
  cases form with
  | disabled =>
    obtain rfl := plain_eq_ok h
    intro a ha
    cases ha
  | standard =>
    obtain rfl := plain_eq_ok h
    intro a ha
    cases ha
  | singleAxis =>
    obtain ⟨⟨b, d⟩, -, rfl⟩ := map_eq_ok.1 h
    intro a ha
    cases ha
  | magnitudeProjection => exact projection_ne h

theorem axes_ne_of_parse {text : String} {mode : ActuatorMode} (h : parse text = .ok mode) :
    ∀ a, mode ≠ .magnitudeProjection a a := by
  rw [parse, ofChars] at h
  split at h
  · cases h
  · split at h
    · cases h
    · rw [ofPhrase] at h
      split at h
      · cases h
      · split at h
        · cases h
        · split at h
          · cases h
          · split at h
            · cases h
            · exact ofParams_ne h

/-! ## What is written -/

def form : ActuatorMode → ActuatorForm
  | .disabled => .disabled
  | .standard => .standard
  | .singleAxis .. => .singleAxis
  | .magnitudeProjection .. => .magnitudeProjection

/-- What is written between the parentheses of a mode. -/
def params : ActuatorMode → List Char
  | .disabled => []
  | .standard => []
  | .singleAxis a d => axisParamText a.name.toList d
  | .magnitudeProjection a b => a.name.toList ++ ',' :: ' ' :: b.name.toList

theorem toList_render (mode : ActuatorMode) :
    (mode.params = [] ∧ mode.render.toList = mode.form.word) ∨
      (Piece 0 mode.params ∧
        mode.render.toList = mode.form.word ++ '(' :: (mode.params ++ [')'])) := by
  cases mode with
  | disabled => exact .inl ⟨rfl, rfl⟩
  | standard => exact .inl ⟨rfl, rfl⟩
  | singleAxis a d =>
    refine .inr ⟨axisParamText_piece (axisName_word a) d, ?_⟩
    have htext : (singleAxis a d).render = axisText "SingleAxis" a.name d := rfl
    rw [htext, toList_axisText]
    rfl
  | magnitudeProjection a b =>
    refine .inr ⟨(axisName_word a).piece.pair (axisName_word b).piece, ?_⟩
    have htext : (magnitudeProjection a b).render =
        "MagnitudeProjection(" ++ a.name ++ ", " ++ b.name ++ ")" := rfl
    rw [htext]
    simp only [String.toList_append, params, List.append_assoc]
    rfl

theorem nesting?_render (mode : ActuatorMode) :
    ∃ k ≤ 1, nesting? mode.render.toList = some k := by
  have hword : Word mode.form.word := mode.form.word_word
  rcases mode.toList_render with ⟨-, h⟩ | ⟨hp, h⟩
  · exact ⟨0, Nat.zero_le 1, h ▸ nesting?_eq_some hword.nested⟩
  · exact ⟨1, Nat.le_refl 1, h ▸ nesting?_eq_some (Piece.phrase hword hp).nested⟩

theorem ofText?_render (mode : ActuatorMode) :
    Phrase.ofText? mode.render.toList = some ⟨mode.form.word, mode.params, []⟩ := by
  have hword : Word mode.form.word := mode.form.word_word
  rcases mode.toList_render with ⟨hnil, h⟩ | ⟨hp, h⟩
  · have htext := Language.ofText?_word hword .nothing
    rw [List.append_nil] at htext
    rw [h, hnil, htext]
  · rw [h]
    exact ofText?_group hword hp .nothing

theorem ofParams_params {mode : ActuatorMode} (h : ∀ a, mode ≠ .magnitudeProjection a a) :
    ofParams mode.form mode.params = .ok mode := by
  cases mode with
  | disabled => rfl
  | standard => rfl
  | singleAxis a d =>
    have hread := ElementMapper.axisParams_axisParamText (axisName_word a) (axisOfText?_name a) d
    rw [form, params, ofParams, hread]
    rfl
  | magnitudeProjection a b =>
    have hab : a ≠ b := by
      rintro rfl
      exact h a rfl
    have ha := axisName_word a
    have hb := axisName_word b
    have hfirst : projectionAxis "first" (a.name.toList ++ ',' :: ' ' :: b.name.toList) =
        .ok (a, b.name.toList) := by
      rw [projectionAxis, ofText_pair ha hb.piece]
      simp only [if_neg ha.1, axisOfText?_name]
    have hsecond : projectionAxis "second" b.name.toList = .ok (b, []) := by
      rw [projectionAxis, ofText_word hb]
      simp only [if_neg hb.1, axisOfText?_name]
    rw [form, params, ofParams, projection, hfirst]
    simp [bind, Except.bind, pure, Except.pure, hsecond, hab]

theorem parse_written {mode : ActuatorMode} (h : ∀ a, mode ≠ .magnitudeProjection a a) :
    parse mode.render = .ok mode := by
  obtain ⟨k, hk, hn⟩ := mode.nesting?_render
  have hword : mode.form.word ≠ [] := mode.form.word_word.1
  rw [parse, ofChars, hn]
  simp only [if_neg (Nat.not_lt.2 hk), ofPhrase, ofText?_render, if_neg hword, if_false,
    ne_eq, not_true_eq_false, ActuatorForm.ofText?_word, ofParams_params h]

end ActuatorMode

/-! ## Reading again -/

namespace Language

/-- A tree that is read has one to eight children under each compound node and is nested no deeper
than the text it was read from and than the limit; a mode that is read projects onto two different
axes. Both are read again from the text in which they are written. -/
theorem accepted_read_again :
    (∀ (text : String) (t : ElementMapper), ElementMapper.parse text = .ok t →
      t.KeepsLimit ∧ (∃ k, nesting? text.toList = some k ∧ t.depth ≤ k) ∧ t.depth ≤ 4 ∧
        ElementMapper.parse t.render = .ok t) ∧
    ∀ (text : String) (mode : ActuatorMode), ActuatorMode.parse text = .ok mode →
      (∀ a, mode ≠ .magnitudeProjection a a) ∧ ActuatorMode.parse mode.render = .ok mode := by
  refine ⟨fun text t h => ?_, fun text mode h => ?_⟩
  · obtain ⟨k, hn, hk, hfits⟩ := ElementMapper.fits_of_parse h
    have hlimit : t.Fits ElementMapper.nestingLimit := hfits.mono hk
    exact ⟨hfits.keepsLimit, ⟨k, hn, hfits.depth_le⟩, hlimit.depth_le,
      ElementMapper.parse_of_fits hlimit⟩
  · have hne := ActuatorMode.axes_ne_of_parse h
    exact ⟨hne, ActuatorMode.parse_written hne⟩

/-- Odd spacing and synonyms. -/
theorem accepted_read_again_synonyms :
    let t : ElementMapper := .compound [.axis .rotX .positive, .null, .split .null (.pov .up)]
    let mode : ActuatorMode := .magnitudeProjection .rotX .z
    ElementMapper.parse " compound(axis(rx , pos),\tnothing ,split( none,POV(u)) )" = .ok t ∧
      t.render = "Compound(Axis(RotX, +), Null, Split(Null, Pov(Up)))" ∧
      ElementMapper.parse t.render = .ok t ∧
      ActuatorMode.parse "magnitudeprojection ( rx ,Z)\t" = .ok mode ∧
      ActuatorMode.parse mode.render = .ok mode := by
  intro t mode
  have ht : ElementMapper.parse " compound(axis(rx , pos),\tnothing ,split( none,POV(u)) )" =
      .ok t := by
    with_unfolding_all rfl
  have hm : ActuatorMode.parse "magnitudeprojection ( rx ,Z)\t" = .ok mode := by
    with_unfolding_all rfl
  have hwritten : t.render = "Compound(Axis(RotX, +), Null, Split(Null, Pov(Up)))" := by
    decide +kernel
  exact ⟨ht, hwritten, (accepted_read_again.1 _ t ht).2.2.2, hm,
    (accepted_read_again.2 _ mode hm).2⟩

end Language

end VirtualPad
