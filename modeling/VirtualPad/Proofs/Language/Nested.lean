import VirtualPad.Language.Phrase

/-!
# Nested parentheses

`Nested k s` says that the parentheses of the text `s` match and that `k` of them are open at its
deepest place. A scanner that counts parentheses walks over such a text and comes out with the count
it went in with; `nestingFrom_append` and `splitClose?_append` say what each scanner makes of it on
the way.
-/

namespace VirtualPad.Language

/-- The parentheses of a text match, and they are nested to a given depth. -/
inductive Nested : Nat → List Char → Prop
  | nil : Nested 0 []
  | plain {k : Nat} {c : Char} {s : List Char} :
      c ≠ '(' → c ≠ ')' → Nested k s → Nested k (c :: s)
  | group {j k : Nat} {s t : List Char} :
      Nested j s → Nested k t → Nested (max (j + 1) k) ('(' :: (s ++ ')' :: t))

/-! ## Putting texts together -/

theorem Nested.append {j k : Nat} {s t : List Char} (hs : Nested j s) (ht : Nested k t) :
    Nested (max j k) (s ++ t) := by
  induction hs with
  | nil => simpa using ht
  | plain h1 h2 _ ih => exact .plain h1 h2 ih
  | @group i j s u hs _ _ ih =>
    have h := Nested.group hs ih
    rw [← Nat.max_assoc] at h
    simpa using h

theorem Nested.of_forall {s : List Char} (h : ∀ c ∈ s, c ≠ '(' ∧ c ≠ ')') : Nested 0 s := by
  induction s with
  | nil => exact .nil
  | cons c s ih =>
    have hc := h c (by simp)
    exact .plain hc.1 hc.2 (ih fun d hd => h d (by simp [hd]))

theorem Nested.parenthesized {k : Nat} {s : List Char} (h : Nested k s) :
    Nested (k + 1) ('(' :: (s ++ [')'])) := by
  simpa using Nested.group h .nil

/-! ## Scanning -/

theorem nestingFrom_cons {c : Char} (h1 : c ≠ '(') (h2 : c ≠ ')') (d m : Nat) (s : List Char) :
    nestingFrom d m (c :: s) = nestingFrom d m s := by
  rw [nestingFrom]
  · exact h1
  · exact h2

theorem splitClose?_cons {c : Char} (h1 : c ≠ '(') (h2 : c ≠ ')') (d : Nat) (s : List Char) :
    splitClose? d (c :: s) = (splitClose? d s).map fun p => (c :: p.1, p.2) := by
  rw [splitClose?]
  · exact h2
  · exact h1

theorem nestingFrom_append {k : Nat} {s : List Char} (h : Nested k s) (d m : Nat) (hdm : d ≤ m)
    (tail : List Char) : nestingFrom d m (s ++ tail) = nestingFrom d (max m (d + k)) tail := by
  induction h generalizing d m tail with
  | nil => rw [List.nil_append, Nat.add_zero, Nat.max_eq_left hdm]
  | plain h1 h2 _ ih => rw [List.cons_append, nestingFrom_cons h1 h2, ih d m hdm]
  | @group j k s t _ _ ihs iht =>
    -- the counter goes up at the parenthesis, over the inside, and down again behind it
    have hup : nestingFrom d m ('(' :: (s ++ ')' :: t) ++ tail) =
        nestingFrom (d + 1) (max m (d + 1)) (s ++ ')' :: (t ++ tail)) := by
      simp [nestingFrom]
    rw [hup, ihs (d + 1) _ (by omega), nestingFrom, iht d _ (by omega)]
    congr 1
    omega

theorem splitClose?_append {k : Nat} {s : List Char} (h : Nested k s) (d : Nat)
    (tail : List Char) :
    splitClose? d (s ++ tail) = (splitClose? d tail).map fun p => (s ++ p.1, p.2) := by
  induction h generalizing d tail with
  | nil => simp
  | plain h1 h2 _ ih =>
    rw [List.cons_append, splitClose?_cons h1 h2, ih d, Option.map_map]
    rfl
  | @group j k s t _ _ ihs iht =>
    have hup : splitClose? d ('(' :: (s ++ ')' :: t) ++ tail) =
        (splitClose? (d + 1) (s ++ ')' :: (t ++ tail))).map fun p => ('(' :: p.1, p.2) := by
      simp [splitClose?]
    rw [hup, ihs (d + 1), splitClose?, iht d]
    simp [Option.map_map, Function.comp_def]

theorem nesting?_eq_some {k : Nat} {s : List Char} (h : Nested k s) : nesting? s = some k := by
  have hn := nestingFrom_append h 0 0 (Nat.le_refl 0) []
  rw [List.append_nil] at hn
  rw [nesting?, hn]
  simp [nestingFrom]

theorem splitClose?_nested {k : Nat} {s : List Char} (h : Nested k s) (tail : List Char) :
    splitClose? 0 (s ++ ')' :: tail) = some (s, tail) := by
  rw [splitClose?_append h 0]
  simp [splitClose?]

end VirtualPad.Language
