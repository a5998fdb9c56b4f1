import VirtualPad.ElementMapper.Parser

/-!
# The first mapper of a text

The reader cuts a phrase and reads its parameters in one step each, so that its recursion can be
seen to end. Here the two steps are put together again: what a text begins with depends on its first
phrase alone (`first_of_some`), and each composite mapper reads its children with `first`, one after
another out of the text that is left.
-/

namespace VirtualPad.ElementMapper

open VirtualPad.Language

/-- Read a phrase that has been cut off. -/
def ofPhrase (p : Phrase) : Except ParseError ElementMapper :=
  if p.name = [] then .error .missingType
  else
    match MapperForm.ofText? p.name with
    | none => .error (.unknownType (String.ofList p.name))
    | some form => ofParams form p.params

theorem first_of_none {s : List Char} (h : Phrase.ofText? s = none) :
    first s = .error (.malformed (String.ofList s)) := by
  unfold first cut
  split
  · rfl
  · rename_i p hp
    rw [h] at hp
    cases hp

theorem first_of_some {s : List Char} {p : Phrase} (h : Phrase.ofText? s = some p) :
    first s = (ofPhrase p).map fun t => (t, p.rest) := by
  unfold first cut ofPhrase
  split
  · rename_i hnone
    rw [h] at hnone
    cases hnone
  · rename_i q hq
    obtain rfl := Option.some.inj (h.symm.trans hq)
    by_cases hname : p.name = []
    · rw [dif_pos hname, if_pos hname]
      rfl
    · rw [dif_neg hname, if_neg hname]
      cases hform : MapperForm.ofText? p.name with
      | none => rfl
      | some form =>
        have hread (x : Except ParseError ElementMapper) :
            (x >>= fun t => .ok (t, p.rest)) = x.map fun t => (t, p.rest) := by
          cases x <;> rfl
        exact hread (ofParams form p.params)

theorem rest_lt_of_first {s rest : List Char} {t : ElementMapper} (h : first s = .ok (t, rest)) :
    rest.length < s.length := by
  obtain ⟨c, -, h⟩ := bind_eq_ok.1 h
  obtain ⟨mapper, -, h⟩ := bind_eq_ok.1 h
  obtain ⟨-, rfl⟩ := Prod.mk.inj (Except.ok.inj h)
  exact c.rest_lt

theorem inPlace_first (place : Language.Place) (s : List Char) :
    inPlace place (first s) = inPlace place (cut s) >>= fun c =>
      (inPlace place (ofParams c.form c.params)).map fun t => (t, c.rest) := by
  unfold first
  cases cut s with
  | error e => rfl
  | ok c =>
    show inPlace place (ofParams c.form c.params >>= _) = _
    cases h : ofParams c.form c.params
    · simp [bind, Except.bind, h, Except.map]
    · simp [bind, Except.bind, h, Except.map, pure, Except.pure]

theorem ofParams_invert (params : List Char) :
    ofParams .invert params = do
      let (child, rest) ← inPlace (.parameter "Invert" 1) (first params)
      noMore "Invert" rest
      return .invert child := by
  rw [ofParams, inPlace_first]
  cases inPlace (.parameter "Invert" 1) (cut params) with
  | error e => rfl
  | ok c =>
    simp only [bind, Except.bind]
    cases inPlace (.parameter "Invert" 1) (ofParams c.form c.params) <;> rfl

theorem ofParams_split (params : List Char) :
    ofParams .split params = do
      let (positive, rest) ← inPlace (.parameter "Split" 1) (first params)
      let (negative, rest) ← inPlace (.parameter "Split" 2) (first rest)
      noMore "Split" rest
      return .split positive negative := by
  rw [ofParams, inPlace_first]
  simp only [inPlace_first]
  cases inPlace (.parameter "Split" 1) (cut params) with
  | error e => rfl
  | ok c =>
    simp only [bind, Except.bind]
    cases inPlace (.parameter "Split" 1) (ofParams c.form c.params) with
    | error e => rfl
    | ok t =>
      simp only [Except.map]
      cases inPlace (.parameter "Split" 2) (cut c.rest) with
      | error e => rfl
      | ok d =>
        simp only
        cases inPlace (.parameter "Split" 2) (ofParams d.form d.params) <;> rfl

theorem children_eq (number : Nat) (s : List Char) :
    children number s =
      if childLimit < number then
        .error (.within (.form "Compound") (.invalid (.tooManyChildren childLimit)))
      else do
        let (child, rest) ← inPlace (.parameter "Compound" number) (first s)
        if rest = [] then return [child]
        return child :: (← children (number + 1) rest) := by
  rw [children]
  split
  · rfl
  · rw [inPlace_first]
    cases inPlace (.parameter "Compound" number) (cut s) with
    | error e => rfl
    | ok c =>
      simp only [bind, Except.bind]
      cases inPlace (.parameter "Compound" number) (ofParams c.form c.params) <;> rfl

end VirtualPad.ElementMapper
