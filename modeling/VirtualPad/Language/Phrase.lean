/-!
# Phrases

The mapping language is cut up before it is understood. A phrase is a type name, optionally followed
by a parameter list in parentheses; phrases and parameters are separated by commas. This module
finds parentheses, commas and the text between them, and drops the blanks around what it finds.

The main facts are that nothing found is longer than the text it was found in:
`Phrase.params_lt` and `Phrase.rest_lt` make the recursion of the readers terminate.
-/

namespace VirtualPad.Language

/-- A blank: a space or a tab. -/
def isBlank (c : Char) : Bool := c == ' ' || c == '\t'

/-- A character that ends a type name. -/
def isDelimiter (c : Char) : Bool := c == '(' || c == ')' || c == ','

def trimStart (s : List Char) : List Char := s.dropWhile isBlank

def trimEnd (s : List Char) : List Char := (s.reverse.dropWhile isBlank).reverse

/-- Drop the blanks at both ends. -/
def trim (s : List Char) : List Char := trimEnd (trimStart s)

theorem length_trimStart_le (s : List Char) : (trimStart s).length ≤ s.length :=
  (List.dropWhile_sublist isBlank).length_le

theorem length_trimEnd_le (s : List Char) : (trimEnd s).length ≤ s.length := by
  have h := (List.dropWhile_sublist (l := s.reverse) isBlank).length_le
  simpa [trimEnd] using h

theorem length_trim_le (s : List Char) : (trim s).length ≤ s.length :=
  Nat.le_trans (length_trimEnd_le _) (length_trimStart_le s)

/-! ## Parentheses -/

/-- The deepest nesting of parentheses, counted from `depth` open ones with `deepest` seen so far;
nothing if they do not balance. -/
def nestingFrom (depth deepest : Nat) : List Char → Option Nat
  | [] => if depth = 0 then some deepest else none
  | '(' :: s => nestingFrom (depth + 1) (max deepest (depth + 1)) s
  | ')' :: s =>
    match depth with
    | 0 => none
    | d + 1 => nestingFrom d deepest s
  | _ :: s => nestingFrom depth deepest s

/-- The deepest nesting of parentheses in a text, or nothing if they do not balance. -/
def nesting? (s : List Char) : Option Nat := nestingFrom 0 0 s

/-- Cut a text at the parenthesis that closes one opened just before it. The number counts the
parentheses opened and not yet closed inside the text. -/
def splitClose? (depth : Nat) : List Char → Option (List Char × List Char)
  | [] => none
  | ')' :: s =>
    match depth with
    | 0 => some ([], s)
    | d + 1 => (splitClose? d s).map fun (inside, after) => (')' :: inside, after)
  | '(' :: s => (splitClose? (depth + 1) s).map fun (inside, after) => ('(' :: inside, after)
  | c :: s => (splitClose? depth s).map fun (inside, after) => (c :: inside, after)

/-- Cut a text at its first comma outside parentheses. Without one the whole text is the first part;
unbalanced parentheses before it leave nothing. -/
def splitComma? (depth : Nat) : List Char → Option (List Char × Option (List Char))
  | [] => if depth = 0 then some ([], none) else none
  | '(' :: s => (splitComma? (depth + 1) s).map fun (first, after) => ('(' :: first, after)
  | ')' :: s =>
    match depth with
    | 0 => none
    | d + 1 => (splitComma? d s).map fun (first, after) => (')' :: first, after)
  | ',' :: s =>
    if depth = 0 then some ([], some s)
    else (splitComma? depth s).map fun (first, after) => (',' :: first, after)
  | c :: s => (splitComma? depth s).map fun (first, after) => (c :: first, after)

theorem splitClose?_eq_append {d : Nat} {s inside after : List Char}
    (h : splitClose? d s = some (inside, after)) : s = inside ++ ')' :: after := by
  fun_induction splitClose? d s generalizing inside with
  | case1 => simp at h
  | case2 => simp_all
  | case3 s d ih =>
    simp only [Option.map_eq_some_iff, Prod.exists, Prod.mk.injEq] at h
    obtain ⟨i, a, hs, rfl, rfl⟩ := h
    simp [← ih hs]
  | case4 d s ih =>
    simp only [Option.map_eq_some_iff, Prod.exists, Prod.mk.injEq] at h
    obtain ⟨i, a, hs, rfl, rfl⟩ := h
    simp [← ih hs]
  | case5 d c s _ _ ih =>
    simp only [Option.map_eq_some_iff, Prod.exists, Prod.mk.injEq] at h
    obtain ⟨i, a, hs, rfl, rfl⟩ := h
    simp [← ih hs]

/-! ## Phrases and parameters -/

/-- The pieces of a text at one level of nesting: the type name of its first phrase, that phrase's
parameters, and the text after the comma that ends the phrase. -/
structure Phrase where
  name : List Char
  params : List Char
  rest : List Char
  deriving DecidableEq, Repr

/-- The text after a phrase: nothing, or a comma and something more. -/
def afterPhrase? (s : List Char) : Option (List Char) :=
  match trimStart s with
  | [] => some []
  | ',' :: more => if trim more = [] then none else some (trim more)
  | _ => none

/-- Cut a text into its first phrase and what follows it. There is no cut if a parenthesis is closed
that was not opened or opened and not closed, if a parameter list is empty or followed by anything
but a comma, and if a comma is followed by nothing. -/
def Phrase.ofText? (s : List Char) : Option Phrase :=
  let name := trim (s.takeWhile fun c => !isDelimiter c)
  match s.dropWhile fun c => !isDelimiter c with
  | [] => some ⟨name, [], []⟩
  | ',' :: more => if trim more = [] then none else some ⟨name, [], trim more⟩
  | '(' :: more =>
    match splitClose? 0 more with
    | none => none
    | some (inside, after) =>
      match afterPhrase? after with
      | none => none
      | some rest => if trim inside = [] then none else some ⟨name, trim inside, rest⟩
  | _ => none

/-- The first of a list of parameters and the text after its comma. -/
structure Parameter where
  first : List Char
  rest : List Char
  deriving DecidableEq, Repr

/-- Cut a parameter list at its first comma outside parentheses. There is no cut if parentheses do
not balance or if the comma is followed by nothing. -/
def Parameter.ofText? (s : List Char) : Option Parameter :=
  match splitComma? 0 s with
  | none => none
  | some (first, none) => some ⟨trim first, []⟩
  | some (first, some more) => if trim more = [] then none else some ⟨trim first, trim more⟩

/-- The first parameter of a list, or an empty one where there is no cut. -/
def Parameter.ofText (s : List Char) : Parameter := (ofText? s).getD ⟨[], []⟩

theorem length_afterPhrase?_le {s rest : List Char} (h : afterPhrase? s = some rest) :
    rest.length ≤ s.length := by
  have hs := length_trimStart_le s
  unfold afterPhrase? at h
  split at h
  · simp_all
  · rename_i more he
    have hm := length_trim_le more
    split at h
    · simp at h
    · obtain rfl := Option.some.inj h
      rw [he] at hs
      simp only [List.length_cons] at hs
      omega
  · simp at h

theorem Phrase.ofText?_lengths {s : List Char} {p : Phrase} (h : ofText? s = some p) :
    p.name.length + p.params.length ≤ s.length ∧ p.name.length + p.rest.length ≤ s.length ∧
      (p.params ≠ [] → p.params.length < s.length) ∧ (p.rest ≠ [] → p.rest.length < s.length) := by
  have hs : (s.takeWhile fun c => !isDelimiter c).length +
      (s.dropWhile fun c => !isDelimiter c).length = s.length := by
    rw [← List.length_append, List.takeWhile_append_dropWhile]
  have hn := length_trim_le (s.takeWhile fun c => !isDelimiter c)
  unfold ofText? at h
  simp only at h
  split at h
  · obtain rfl := Option.some.inj h
    simp only [List.length_nil]
    refine ⟨by omega, by omega, by simp, by simp⟩
  · rename_i more he
    have hm := length_trim_le more
    split at h
    · simp at h
    · obtain rfl := Option.some.inj h
      rw [he] at hs
      simp only [List.length_cons, List.length_nil] at hs ⊢
      refine ⟨by omega, by omega, by simp, fun _ => by omega⟩
  · rename_i more he
    split at h
    · simp at h
    · rename_i inside after hc
      split at h
      · simp at h
      · rename_i rest hr
        have h1 := length_afterPhrase?_le hr
        have h2 := length_trim_le inside
        have h3 := congrArg List.length (splitClose?_eq_append hc)
        split at h
        · simp at h
        · obtain rfl := Option.some.inj h
          rw [he] at hs
          simp only [List.length_cons, List.length_append] at hs h3 ⊢
          refine ⟨by omega, by omega, fun _ => by omega, fun _ => by omega⟩
  · simp at h

theorem Phrase.params_lt {s : List Char} {p : Phrase} (h : ofText? s = some p)
    (hn : p.name ≠ []) : p.params.length < s.length := by
  have := (ofText?_lengths h).1
  have := List.length_pos_iff.2 hn
  omega

theorem Phrase.rest_lt {s : List Char} {p : Phrase} (h : ofText? s = some p)
    (hn : p.name ≠ []) : p.rest.length < s.length := by
  have := (ofText?_lengths h).2.1
  have := List.length_pos_iff.2 hn
  omega

end VirtualPad.Language
