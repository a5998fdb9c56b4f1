import Mathlib.Data.List.TakeWhile
import VirtualPad.Proofs.Language.Nested

/-!
# Balance of what is cut

The pieces that `Phrase.ofText?` cuts off a text with matching parentheses have matching parentheses
too. The parameters of a phrase stand inside a pair of them, so they are nested less deep than the
text; what follows a phrase is nested no deeper (`ofText?_nesting`).

The counter in `nestingFrom` is what all this is said of: blanks and names leave it alone, and over
the text up to a closing parenthesis it comes back to where it was (`splitClose?_nestingFrom`).
-/

namespace VirtualPad.Language

/-! ## The deepest nesting so far -/

theorem le_of_nestingFrom {d m k : Nat} {s : List Char} (h : nestingFrom d m s = some k) :
    m ≤ k := by
  fun_induction nestingFrom d m s with
  | case1 m =>
    obtain rfl := Option.some.inj h
    exact Nat.le_refl _
  | case2 d m hd => cases h
  | case3 d m s ih =>
    have hk := ih h
    omega
  | case4 m s => cases h
  | case5 m s d ih => exact ih h
  | case6 d m c s _ _ ih => exact ih h

theorem nestingFrom_of_le {d m k : Nat} {s : List Char} (h : nestingFrom d m s = some k)
    {m₀ : Nat} (hm : m₀ ≤ m) : ∃ k₀ ≤ k, nestingFrom d m₀ s = some k₀ := by
  fun_induction nestingFrom d m s generalizing m₀ with
  | case1 m =>
    obtain rfl := Option.some.inj h
    exact ⟨m₀, hm, rfl⟩
  | case2 d m hd => cases h
  | case3 d m s ih => exact ih h (by omega)
  | case4 m s => cases h
  | case5 m s d ih => exact ih h hm
  | case6 d m c s ho hc ih =>
    rw [nestingFrom_cons ho hc]
    exact ih h hm

/-! ## What the counter passes over -/

theorem nestingFrom_dropWhile {p : Char → Bool} (hp : ∀ c, p c = true → c ≠ '(' ∧ c ≠ ')')
    (d m : Nat) (s : List Char) : nestingFrom d m (s.dropWhile p) = nestingFrom d m s := by
  induction s with
  | nil => rfl
  | cons c s ih =>
    cases hc : p c with
    | true =>
      rw [List.dropWhile_cons_of_pos hc, nestingFrom_cons (hp c hc).1 (hp c hc).2, ih]
    | false => rw [List.dropWhile_cons_of_neg (by simp [hc])]

theorem isBlank_plain (c : Char) (h : isBlank c = true) : c ≠ '(' ∧ c ≠ ')' := by
  simp only [isBlank, Bool.or_eq_true, beq_iff_eq] at h
  rcases h with rfl | rfl
  · decide
  · decide

theorem nestingFrom_trimStart (d m : Nat) (s : List Char) :
    nestingFrom d m (trimStart s) = nestingFrom d m s := nestingFrom_dropWhile isBlank_plain d m s

theorem nestingFrom_append_plain {t : List Char} (ht : ∀ c ∈ t, c ≠ '(' ∧ c ≠ ')') (d m : Nat)
    (s : List Char) : nestingFrom d m (s ++ t) = nestingFrom d m s := by
  have hnil : ∀ d m, nestingFrom d m t = nestingFrom d m [] := by
    intro d m
    induction t with
    | nil => rfl
    | cons c t ih =>
      have hc := ht c List.mem_cons_self
      rw [nestingFrom_cons hc.1 hc.2]
      exact ih fun b hb => ht b (List.mem_cons_of_mem c hb)
  fun_induction nestingFrom d m s with
  | case1 m => exact hnil 0 m
  | case2 d m hd =>
    rw [List.nil_append, hnil, nestingFrom, if_neg hd]
  | case3 d m s ih => rw [List.cons_append, nestingFrom, ih]
  | case4 m s => rfl
  | case5 m s d ih => rw [List.cons_append, nestingFrom, ih]
  | case6 d m c s ho hc ih => rw [List.cons_append, nestingFrom_cons ho hc, ih]

theorem nestingFrom_trimEnd (d m : Nat) (s : List Char) :
    nestingFrom d m (trimEnd s) = nestingFrom d m s := by
  have hsplit : s = trimEnd s ++ (s.reverse.takeWhile isBlank).reverse := by
    rw [trimEnd, ← List.reverse_append, List.takeWhile_append_dropWhile, List.reverse_reverse]
  have hplain : ∀ c ∈ (s.reverse.takeWhile isBlank).reverse, c ≠ '(' ∧ c ≠ ')' := by
    intro c hc
    exact isBlank_plain c (List.mem_takeWhile_imp (List.mem_reverse.1 hc))
  conv => rhs; rw [hsplit]
  rw [nestingFrom_append_plain hplain]

@[simp] theorem nesting?_trim (s : List Char) : nesting? (trim s) = nesting? s := by
  rw [nesting?, trim, nestingFrom_trimEnd, nestingFrom_trimStart, nesting?]

/-! ## What is cut -/

/-- The cuts put a character back in front of the first piece of what follows it. -/
theorem exists_of_map_cons {α : Type} {cut : Option (List Char × α)} {c : Char}
    {piece : List Char} {more : α}
    (h : (cut.map fun (piece, more) => (c :: piece, more)) = some (piece, more)) :
    ∃ tail, cut = some (tail, more) ∧ piece = c :: tail := by
  obtain ⟨⟨tail, more'⟩, hcut, hpiece⟩ := Option.map_eq_some_iff.1 h
  obtain ⟨rfl, rfl⟩ := Prod.mk.inj hpiece
  exact ⟨tail, hcut, rfl⟩

/-- Up to the closing parenthesis the counter takes back what it counted, however many parentheses
were open before. -/
theorem splitClose?_nestingFrom {d : Nat} {s inside after : List Char}
    (h : splitClose? d s = some (inside, after)) (m : Nat) :
    ∃ k, ∀ j tail, nestingFrom (d + j) (m + j) (inside ++ tail) = nestingFrom j (k + j) tail := by
  fun_induction splitClose? d s generalizing m inside with
  | case1 d => cases h
  | case2 s =>
    obtain ⟨rfl, rfl⟩ := Prod.mk.inj (Option.some.inj h)
    refine ⟨m, fun j tail => ?_⟩
    rw [List.nil_append, Nat.zero_add]
  | case3 s d ih =>
    obtain ⟨i, hs, rfl⟩ := exists_of_map_cons h
    obtain ⟨k, hk⟩ := ih hs m
    refine ⟨k, fun j tail => ?_⟩
    rw [List.cons_append, Nat.succ_add, nestingFrom, hk]
  | case4 d s ih =>
    obtain ⟨i, hs, rfl⟩ := exists_of_map_cons h
    obtain ⟨k, hk⟩ := ih hs (max m (d + 1))
    refine ⟨k, fun j tail => ?_⟩
    have hopen : d + j + 1 = d + 1 + j := by omega
    have hmax : max (m + j) (d + 1 + j) = max m (d + 1) + j := by omega
    rw [List.cons_append, nestingFrom, hopen, hmax, hk]
  | case5 d c s hc ho ih =>
    obtain ⟨i, hs, rfl⟩ := exists_of_map_cons h
    obtain ⟨k, hk⟩ := ih hs m
    refine ⟨k, fun j tail => ?_⟩
    rw [List.cons_append, nestingFrom_cons ho hc, hk]

theorem nesting?_inside {s inside after : List Char} {k : Nat}
    (h : splitClose? 0 s = some (inside, after)) (hn : nestingFrom 1 1 s = some k) :
    (∃ j < k, nesting? inside = some j) ∧ ∃ j ≤ k, nesting? after = some j := by
  obtain ⟨j, hj⟩ := splitClose?_nestingFrom h 0
  rw [splitClose?_eq_append h] at hn
  have hafter : nestingFrom 0 (j + 1) after = some k := by
    rw [← hn]
    have hclose := hj 1 (')' :: after)
    rw [Nat.zero_add] at hclose
    rw [hclose, nestingFrom]
  have hinside : nesting? inside = some j := by
    have hend := hj 0 []
    rw [List.append_nil] at hend
    rw [nesting?, hend]
    rfl
  refine ⟨⟨j, ?_, hinside⟩, nestingFrom_of_le hafter (Nat.zero_le _)⟩
  have hle := le_of_nestingFrom hafter
  omega

theorem nesting?_afterPhrase? {s rest : List Char} {k : Nat} (h : afterPhrase? s = some rest)
    (hn : nesting? s = some k) : ∃ j ≤ k, nesting? rest = some j := by
  rw [nesting?, ← nestingFrom_trimStart] at hn
  unfold afterPhrase? at h
  split at h
  · obtain rfl := Option.some.inj h
    exact ⟨0, Nat.zero_le _, rfl⟩
  · rename_i more hmore
    split at h
    · cases h
    · obtain rfl := Option.some.inj h
      rw [hmore, nestingFrom_cons (by decide) (by decide)] at hn
      exact ⟨k, Nat.le_refl _, by rw [nesting?_trim]; exact hn⟩
  · cases h

theorem Phrase.ofText?_nesting {s : List Char} {p : Phrase} {k : Nat} (h : ofText? s = some p)
    (hn : nesting? s = some k) :
    (p.params = [] ∨ ∃ j < k, nesting? p.params = some j) ∧ ∃ j ≤ k, nesting? p.rest = some j := by
  have hname : ∀ c, (!isDelimiter c) = true → c ≠ '(' ∧ c ≠ ')' := by
    intro c hc
    simp only [isDelimiter, Bool.not_eq_true', Bool.or_eq_false_iff, beq_eq_false_iff_ne] at hc
    exact hc.1
  rw [nesting?, ← nestingFrom_dropWhile hname] at hn
  unfold ofText? at h
  simp only at h
  split at h
  · obtain rfl := Option.some.inj h
    exact ⟨.inl rfl, 0, Nat.zero_le _, rfl⟩
  · rename_i more hmore
    split at h
    · cases h
    · obtain rfl := Option.some.inj h
      rw [hmore, nestingFrom_cons (by decide) (by decide)] at hn
      exact ⟨.inl rfl, k, Nat.le_refl _, by rw [nesting?_trim]; exact hn⟩
  · rename_i more hmore
    rw [hmore, nestingFrom] at hn
    split at h
    · cases h
    · rename_i inside after hclose
      obtain ⟨⟨i, hi, hinside⟩, j, hj, hafter⟩ := nesting?_inside hclose hn
      split at h
      · cases h
      · rename_i rest hrest
        obtain ⟨j', hj', hrest⟩ := nesting?_afterPhrase? hrest hafter
        split at h
        · cases h
        · obtain rfl := Option.some.inj h
          exact ⟨.inr ⟨i, hi, by rw [nesting?_trim]; exact hinside⟩, j', by omega, hrest⟩
  · cases h

theorem Phrase.exists_nesting?_params {s : List Char} {p : Phrase} {k : Nat}
    (h : ofText? s = some p) (hn : nesting? s = some k) : ∃ j, nesting? p.params = some j := by
  rcases (ofText?_nesting h hn).1 with hnil | ⟨j, -, hj⟩
  · exact ⟨0, by rw [hnil]; rfl⟩
  · exact ⟨j, hj⟩

end VirtualPad.Language
