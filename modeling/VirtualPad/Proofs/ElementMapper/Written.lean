import VirtualPad.ElementMapper.Parser
import VirtualPad.ElementMapper.Printer
import VirtualPad.Proofs.Language.Phrase

/-!
# The written form of a tree

A tree is written as the name of its type and, in parentheses, its parameters (`toList_render`). The
text of a tree that keeps to the child limit is a `Piece` whose parentheses are nested as deep as
the tree (`piece_render`), so it can be cut out again wherever it stands.
-/

namespace VirtualPad

open VirtualPad.Language

/-- The spelling in which a type of element mapper is written. -/
def Language.MapperForm.word : MapperForm → List Char
  | .axis => "Axis".toList
  | .button => "Button".toList
  | .compound => "Compound".toList
  | .digitalAxis => "DigitalAxis".toList
  | .invert => "Invert".toList
  | .keyboard => "Keyboard".toList
  | .mouseAxis => "MouseAxis".toList
  | .mouseButton => "MouseButton".toList
  | .pov => "Pov".toList
  | .null => "Null".toList
  | .split => "Split".toList

theorem Language.MapperForm.word_word (f : MapperForm) : Word f.word := by cases f <;> decide

theorem Language.MapperForm.ofText?_word (f : MapperForm) : ofText? f.word = some f := by
  cases f <;> rfl

/-! ## Words of leaves -/

theorem axisName_word (a : Axis) : Word a.name.toList := by cases a <;> decide

theorem mouseAxisName_word (a : MouseAxis) : Word a.name.toList := by cases a <;> decide

theorem mouseButtonName_word (b : MouseButton) : Word b.name.toList := by cases b <;> decide

theorem povName_word (d : PovDirection) : Word d.name.toList := by cases d <;> decide

theorem directionSymbol_word (d : AxisDirection) : Word d.symbol.toList := by cases d <;> decide

theorem buttonNumber_word : ∀ b : Button, Word (toString b.number).toList := by decide

/-- A key as it is written. -/
def keyText (code : UInt8) : List Char :=
  '0' :: 'x' :: [hexDigit (code.toNat / 16), hexDigit (code.toNat % 16)]

theorem hexDigit_plain : ∀ n < 16,
    isDelimiter (hexDigit n) = false ∧ isBlank (hexDigit n) = false := by
  decide

theorem keyText_word (code : UInt8) : Word (keyText code) := by
  have hlt := code.toNat_lt
  have h1 := hexDigit_plain (code.toNat / 16) (by omega)
  have h2 := hexDigit_plain (code.toNat % 16) (by omega)
  refine ⟨by simp [keyText], ?_⟩
  simp only [keyText, List.mem_cons, List.not_mem_nil, or_false]
  rintro c (rfl | rfl | rfl | rfl)
  · decide
  · decide
  · exact h1
  · exact h2

/-- The parameters of an axis: its name, and its direction unless that is the whole axis. -/
def axisParamText (axis : List Char) : AxisDirection → List Char
  | .both => axis
  | d => axis ++ ',' :: ' ' :: d.symbol.toList

theorem axisParamText_piece {axis : List Char} (h : Word axis) (d : AxisDirection) :
    Piece 0 (axisParamText axis d) := by
  cases d with
  | both => exact h.piece
  | positive => exact h.piece.pair (directionSymbol_word .positive).piece
  | negative => exact h.piece.pair (directionSymbol_word .negative).piece

theorem toList_axisText (form axis : String) (d : AxisDirection) :
    (axisText form axis d).toList =
      form.toList ++ '(' :: (axisParamText axis.toList d ++ [')']) := by
  cases d <;> simp [axisText, axisParamText, String.toList_append]

/-! ## Trees -/

namespace ElementMapper

/-- The type under which a tree is written. -/
def form : ElementMapper → MapperForm
  | .axis .. => .axis
  | .digitalAxis .. => .digitalAxis
  | .button _ => .button
  | .pov _ => .pov
  | .key _ => .keyboard
  | .mouseAxis .. => .mouseAxis
  | .mouseButton _ => .mouseButton
  | .invert _ => .invert
  | .split .. => .split
  | .compound _ => .compound
  | .null => .null

/-- What is written between the parentheses of a tree. -/
def params : ElementMapper → List Char
  | .axis a d => axisParamText a.name.toList d
  | .digitalAxis a d => axisParamText a.name.toList d
  | .button b => (toString b.number).toList
  | .pov d => d.name.toList
  | .key code => keyText code
  | .mouseAxis a d => axisParamText a.name.toList d
  | .mouseButton b => b.name.toList
  | .invert t => t.render.toList
  | .split p n => p.render.toList ++ ',' :: ' ' :: n.render.toList
  | .compound ts => (renderAll ts).toList
  | .null => []

theorem toList_render {t : ElementMapper} (h : t ≠ .null) :
    t.render.toList = t.form.word ++ '(' :: (t.params ++ [')']) := by
  cases t with
  | null => exact absurd rfl h
  | axis a d => rw [render, toList_axisText]; rfl
  | digitalAxis a d => rw [render, toList_axisText]; rfl
  | mouseAxis a d => rw [render, toList_axisText]; rfl
  | key code => rw [render, hexByte]; simp only [String.toList_append, String.toList_ofList]; rfl
  | split p n =>
    rw [render, params]
    simp only [String.toList_append, List.append_assoc, List.cons_append]
    rfl
  | button b => rw [render]; simp only [String.toList_append, List.append_assoc]; rfl
  | pov d => rw [render]; simp only [String.toList_append, List.append_assoc]; rfl
  | mouseButton b => rw [render]; simp only [String.toList_append, List.append_assoc]; rfl
  | invert t => rw [render]; simp only [String.toList_append, List.append_assoc]; rfl
  | compound ts => rw [render]; simp only [String.toList_append, List.append_assoc]; rfl

theorem render_null : render .null = String.ofList MapperForm.null.word := by
  rw [render]
  rfl

theorem toList_renderAll_cons (t u : ElementMapper) (ts : List ElementMapper) :
    (renderAll (t :: u :: ts)).toList =
      t.render.toList ++ ',' :: ' ' :: (renderAll (u :: ts)).toList := by
  rw [renderAll]
  · simp only [String.toList_append, List.append_assoc]; rfl
  · simp

theorem piece_render_of_params {t : ElementMapper}
    (h : t ≠ .null → ∃ k, Piece k t.params ∧ t.depth = k + 1) : Piece t.depth t.render.toList := by
  by_cases h0 : t = .null
  · subst h0
    rw [render_null, String.toList_ofList, depth]
    exact MapperForm.null.word_word.piece
  · obtain ⟨k, hp, hk⟩ := h h0
    rw [toList_render h0, hk]
    exact hp.phrase t.form.word_word

mutual

theorem piece_params : ∀ t : ElementMapper, t ≠ .null → t.KeepsLimit →
    ∃ k, Piece k t.params ∧ t.depth = k + 1
  | .axis a d, _, _ => ⟨0, axisParamText_piece (axisName_word a) d, by simp [depth]⟩
  | .digitalAxis a d, _, _ => ⟨0, axisParamText_piece (axisName_word a) d, by simp [depth]⟩
  | .mouseAxis a d, _, _ => ⟨0, axisParamText_piece (mouseAxisName_word a) d, by simp [depth]⟩
  | .button b, _, _ => ⟨0, (buttonNumber_word b).piece, by simp [depth]⟩
  | .pov d, _, _ => ⟨0, (povName_word d).piece, by simp [depth]⟩
  | .key code, _, _ => ⟨0, (keyText_word code).piece, by simp [depth]⟩
  | .mouseButton b, _, _ => ⟨0, (mouseButtonName_word b).piece, by simp [depth]⟩
  | .null, h0, _ => absurd rfl h0
  | .invert t, _, h => by
    rw [KeepsLimit] at h
    exact ⟨t.depth, piece_render_of_params fun h0 => piece_params t h0 h, by simp [depth]⟩
  | .split p n, _, h => by
    rw [KeepsLimit] at h
    have hp := piece_render_of_params fun h0 => piece_params p h0 h.1
    have hn := piece_render_of_params fun h0 => piece_params n h0 h.2
    exact ⟨max p.depth n.depth, hp.pair hn, by simp [depth]⟩
  | .compound ts, _, h => by
    rw [KeepsLimit] at h
    have hts := piece_renderAll ts (List.length_pos_iff.1 h.1) h.2.2
    exact ⟨depthAll ts, hts, by simp [depth]⟩

theorem piece_renderAll : ∀ ts : List ElementMapper, ts ≠ [] → KeepLimit ts →
    Piece (depthAll ts) (renderAll ts).toList
  | [], h0, _ => absurd rfl h0
  | [t], _, h => by
    rw [KeepLimit] at h
    have ht := piece_render_of_params fun h0 => piece_params t h0 h.1
    simpa [renderAll, depthAll] using ht
  | t :: u :: ts, _, h => by
    rw [KeepLimit] at h
    have ht := piece_render_of_params fun h0 => piece_params t h0 h.1
    rw [toList_renderAll_cons, depthAll]
    exact ht.pair (piece_renderAll (u :: ts) (by simp) h.2)

end

/-- The text of a tree can be cut out whole, and its parentheses are nested as deep as the tree. -/
theorem piece_render {t : ElementMapper} (h : t.KeepsLimit) : Piece t.depth t.render.toList :=
  piece_render_of_params fun h0 => piece_params t h0 h

end ElementMapper

end VirtualPad
