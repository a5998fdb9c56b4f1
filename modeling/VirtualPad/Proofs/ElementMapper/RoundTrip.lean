import VirtualPad.Proofs.ElementMapper.Written

/-!
# Reading what was written

The reader of element mappers gives back every tree whose text it is shown, as long as the tree
keeps to the limits of the language: one to eight children under a compound node, and a nesting
depth of no more than four. Deeper trees are refused with their depth (`parse_render`).

The reader works on a text piece by piece. `cut_render` says what the first cut finds in the text of
a tree; `ofParams_params` and `children_renderAll` are the induction over the tree.
-/

namespace VirtualPad.ElementMapper

open VirtualPad.Language

/-! ## Reading leaves -/

theorem axisParams_axisParamText {α : Type} {axisOf? : List Char → Option α} {name : List Char}
    {a : α} (hn : Word name) (ha : axisOf? name = some a) (d : AxisDirection) :
    axisParams axisOf? (axisParamText name d) = .ok (a, d) := by
  have hnil : Parameter.ofText [] = ⟨[], []⟩ := rfl
  cases d with
  | both => simp [axisParams, axisParamText, ofText_word hn, hn.1, ha, hnil]
  | positive =>
    have hs := directionSymbol_word .positive
    simp [axisParams, axisParamText, ofText_pair hn hs.piece, ofText_word hs, hn.1, hs.1, ha,
      directionOfText?_symbol]
  | negative =>
    have hs := directionSymbol_word .negative
    simp [axisParams, axisParamText, ofText_pair hn hs.piece, ofText_word hs, hn.1, hs.1, ha,
      directionOfText?_symbol]

theorem decimal?_number : ∀ b : Button, decimal? (toString b.number).toList = some b.number := by
  decide

theorem hexDigit_numeral : ∀ n < 16,
    (hexDigit n).utf8Size = 1 ∧ (hexDigit n).isAlphanum = true ∧ digitValue (hexDigit n) = n := by
  decide

/-- No key name begins like a hexadecimal numeral. -/
theorem scanCodes_take_two : ∀ entry ∈ scanCodes, entry.1.toList.take 2 ≠ ['0', 'X'] := by
  decide +kernel

theorem scanCode?_keyText (code : UInt8) : scanCode? (keyText code) = none := by
  have hlt := code.toNat_lt
  have h1 := (hexDigit_numeral (code.toNat / 16) (by omega)).1
  have h2 := (hexDigit_numeral (code.toNat % 16) (by omega)).1
  have hcount : byteCount (keyText code) = 4 := by
    simp [byteCount, keyText, h1, h2]
    decide
  have hmark : dropMark (keyText code) = keyText code := by
    simp [dropMark, keyMark, keyText, List.isPrefixOf]
  have hkey : scanCodes.lookup (String.ofList ((keyText code).map Char.toUpper)) = none := by
    rw [List.lookup_eq_none_iff]
    intro entry hentry
    rw [bne_iff_ne]
    intro he
    apply scanCodes_take_two entry hentry
    rw [← he, String.toList_ofList]
    rfl
  rw [scanCode?, hcount, hmark, if_neg (by decide)]
  exact hkey

theorem number?_keyText (code : UInt8) : number? (keyText code) = some code.toNat := by
  have hlt := code.toNat_lt
  obtain ⟨_, ha1, hv1⟩ := hexDigit_numeral (code.toNat / 16) (by omega)
  obtain ⟨_, ha2, hv2⟩ := hexDigit_numeral (code.toNat % 16) (by omega)
  have hnum : isNumeral (keyText code) = true := by
    simp [isNumeral, keyText, ha1, ha2]
    decide
  have hbase : announcedBase (keyText code) =
      (16, [hexDigit (code.toNat / 16), hexDigit (code.toNat % 16)]) := rfl
  rw [number?, if_pos hnum, hbase]
  simp only [ofDigits?, List.cons_ne_nil, if_false, List.foldl_cons, List.foldl_nil,
    Option.bind_some, hv1, hv2]
  rw [if_pos (by omega), Option.bind_some, if_pos (by omega)]
  congr 1
  omega

theorem keyOfParams?_keyText (code : UInt8) : keyOfParams? (keyText code) = some code := by
  have hlt : code.toNat < keyCount := code.toNat_lt
  simp [keyOfParams?, scanCode?_keyText, number?_keyText, hlt]

/-! ## Cutting -/

theorem cut_eq_ok {s : List Char} {p : Phrase} {f : MapperForm} (h : Phrase.ofText? s = some p)
    (hn : p.name ≠ []) (hf : MapperForm.ofText? p.name = some f) :
    cut s = .ok ⟨f, p.params, p.rest, Phrase.params_lt h hn, Phrase.rest_lt h hn⟩ := by
  unfold cut
  split
  · rename_i h'
    rw [h] at h'
    cases h'
  · rename_i q h'
    rw [h] at h'
    obtain rfl := Option.some.inj h'
    rw [dif_neg hn]
    split
    · rename_i hf'
      rw [hf] at hf'
      cases hf'
    · rename_i g hf'
      rw [hf] at hf'
      obtain rfl := Option.some.inj hf'
      rfl

/-- The first cut of a text that begins with a tree finds the type of the tree, its parameters, and
what follows. -/
theorem cut_render {t : ElementMapper} {s tail rest : List Char} (h : t.KeepsLimit)
    (hs : s = t.render.toList ++ tail) (hf : Follows tail rest) :
    ∃ hp hr, cut s = .ok ⟨t.form, t.params, rest, hp, hr⟩ := by
  have ht : Phrase.ofText? s = some ⟨t.form.word, t.params, rest⟩ := by
    rw [hs]
    by_cases h0 : t = .null
    · subst h0
      rw [render_null, String.toList_ofList]
      exact ofText?_word MapperForm.null.word_word hf
    · obtain ⟨k, hp, -⟩ := piece_params t h0 h
      rw [toList_render h0]
      simpa using ofText?_group t.form.word_word hp hf
  exact ⟨_, _, cut_eq_ok ht t.form.word_word.1 t.form.ofText?_word⟩

/-! ## Reading trees -/

mutual

theorem ofParams_params : ∀ t : ElementMapper, t.KeepsLimit → ofParams t.form t.params = .ok t
  | .axis a d, _ => by
    simp [form, params, ofParams, leafOfParams,
      axisParams_axisParamText (axisName_word a) (axisOfText?_name a), Except.map]
  | .digitalAxis a d, _ => by
    simp [form, params, ofParams, leafOfParams,
      axisParams_axisParamText (axisName_word a) (axisOfText?_name a), Except.map]
  | .mouseAxis a d, _ => by
    simp [form, params, ofParams, leafOfParams,
      axisParams_axisParamText (mouseAxisName_word a) (mouseAxisOfText?_name a), Except.map]
  | .button b, _ => by
    simp only [form, params, ofParams, leafOfParams, buttonOfParams, decimal?_number,
      Option.bind_some, Button.ofNumber?_number, required]
    rfl
  | .pov d, _ => by
    simp [form, params, ofParams, leafOfParams, povOfText?_name, required, Except.map]
  | .key code, _ => by
    simp [form, params, ofParams, leafOfParams, keyOfParams?_keyText, required, Except.map]
  | .mouseButton b, _ => by
    simp [form, params, ofParams, leafOfParams, mouseButtonOfText?_name, required, Except.map]
  | .null, _ => by simp [form, params, ofParams, leafOfParams]
  | .invert t, h => by
    rw [KeepsLimit] at h
    obtain ⟨_, _, hc⟩ := cut_render h (List.append_nil _).symm .nothing
    rw [form, params, ofParams, hc]
    simp [bind, Except.bind, pure, Except.pure, noMore, ofParams_params t h]
  | .split p n, h => by
    rw [KeepsLimit] at h
    obtain ⟨_, _, hc⟩ := cut_render h.1 rfl (piece_render h.2).follows
    obtain ⟨_, _, hd⟩ := cut_render h.2 (List.append_nil _).symm .nothing
    rw [form, params, ofParams, hc]
    simp [bind, Except.bind, pure, Except.pure, noMore, ofParams_params p h.1, hd,
      ofParams_params n h.2]
  | .compound ts, h => by
    rw [KeepsLimit] at h
    have hts := children_renderAll ts 1 (List.length_pos_iff.1 h.1) (by omega) h.2.2
    simp [form, params, ofParams, hts, Except.map]

theorem children_renderAll : ∀ (ts : List ElementMapper) (number : Nat), ts ≠ [] →
    number + ts.length ≤ childLimit + 1 → KeepLimit ts →
    children number (renderAll ts).toList = .ok ts
  | [], _, h0, _, _ => absurd rfl h0
  | [t], number, _, hl, h => by
    rw [KeepLimit] at h
    simp only [List.length_singleton] at hl
    obtain ⟨_, _, hc⟩ := cut_render h.1 (List.append_nil _).symm .nothing
    rw [renderAll, children, if_neg (by omega), hc]
    simp [bind, Except.bind, pure, Except.pure, ofParams_params t h.1]
  | t :: u :: ts, number, _, hl, h => by
    rw [KeepLimit] at h
    simp only [List.length_cons] at hl
    have hrest := piece_renderAll (u :: ts) (by simp) h.2
    obtain ⟨_, _, hc⟩ := cut_render h.1 (toList_renderAll_cons t u ts) hrest.follows
    have ih := children_renderAll (u :: ts) (number + 1) (by simp)
      (by simp only [List.length_cons]; omega) h.2
    rw [children, if_neg (by omega), hc]
    simp [bind, Except.bind, pure, Except.pure, ofParams_params t h.1, hrest.ne_nil, ih]

end

theorem first_render {t : ElementMapper} (h : t.KeepsLimit) :
    first t.render.toList = .ok (t, []) := by
  obtain ⟨_, _, hc⟩ := cut_render h (List.append_nil _).symm .nothing
  rw [first, hc]
  simp [bind, Except.bind, pure, Except.pure, ofParams_params t h]

/-- Reading the text of a tree gives the tree back if it is nested no deeper than the limit, and
names its depth otherwise. -/
theorem parse_render (t : ElementMapper) (h : t.KeepsLimit) :
    (t.depth ≤ 4 → parse t.render = .ok t) ∧
      (4 < t.depth → parse t.render = .error (.tooDeep t.depth 4)) := by
  have hn := nesting?_eq_some (piece_render h).nested
  refine ⟨fun hd => ?_, fun hd => ?_⟩
  · rw [parse, ofChars, hn]
    simp only [nestingLimit, if_neg (Nat.not_lt.2 hd), first_render h, if_true]
  · rw [parse, ofChars, hn]
    exact if_pos hd

/-- A tree at the depth limit, and the same tree under one more node. -/
theorem parse_render_at_limit :
    let t : ElementMapper :=
      .compound [.split (.invert (.axis .rotY .positive)) (.mouseButton .left), .key 0x1C, .null]
    t.KeepsLimit ∧ parse t.render = .ok t ∧
      (invert t).KeepsLimit ∧ parse (invert t).render = .error (.tooDeep 5 4) := by
  intro t
  have ht : t.KeepsLimit := by simp [t, KeepsLimit, KeepLimit, childLimit]
  have hi : (invert t).KeepsLimit := by simpa [KeepsLimit] using ht
  have hd : t.depth = 4 := by simp [t, depth, depthAll]
  have hd' : (invert t).depth = 5 := by rw [depth, hd]
  refine ⟨ht, (parse_render t ht).1 (by omega), hi, ?_⟩
  rw [(parse_render (invert t) hi).2 (by omega), hd']

end VirtualPad.ElementMapper
