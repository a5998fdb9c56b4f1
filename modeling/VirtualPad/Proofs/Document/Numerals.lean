import VirtualPad.Document.Yaml.Word

/-!
# Numbers as words

A number that is written in base ten is read as itself, by those who want a natural number and by
those who want an integer: its digits have no idle zero in front, and nothing in front of them or
among them is taken for a sign or for another base.
-/

namespace VirtualPad.Yaml

/-! ## Digits -/

theorem digit?_of_isDigit {c : Char} (hc : c.isDigit) :
    digit? 10 c = some (c.toNat - '0'.toNat) := by
  obtain ⟨-, hle⟩ := Char.isDigit_iff_toNat.mp hc
  have hlt : c.toNat - '0'.toNat < 10 := by
    rw [show '9'.toNat = 57 from rfl] at hle
    rw [show '0'.toNat = 48 from rfl]
    omega
  rw [digit?, if_pos hc]
  exact if_pos hlt

theorem foldl_digit? {l : List Char} (hl : ∀ c ∈ l, c.isDigit) (n : Nat) :
    l.foldl (fun n c => n.bind fun n => (digit? 10 c).map fun d => 10 * n + d) (some n) =
      some (Nat.ofDigitChars 10 l n) := by
  induction l generalizing n with
  | nil => rfl
  | cons c rest ih =>
    rw [List.foldl_cons, Nat.ofDigitChars_cons, Option.bind_some,
      digit?_of_isDigit (hl c List.mem_cons_self), Option.map_some]
    exact ih (fun c hc => hl c (List.mem_cons_of_mem _ hc)) _

theorem digits?_toDigits (n : Nat) : digits? 10 (Nat.toDigits 10 n) = some n := by
  rw [digits?, if_neg Nat.toDigits_ne_nil,
    foldl_digit? fun c hc => Nat.isDigit_of_mem_toDigits (by decide) (by decide) hc,
    Nat.ofDigitChars_ten_toDigits]

theorem head?_toDigits_ne {n : Nat} (hn : 0 < n) : (Nat.toDigits 10 n).head? ≠ some '0' := by
  induction n using Nat.strongRecOn with
  | ind n ih =>
    by_cases hlt : n < 10
    · rw [Nat.toDigits_of_lt_base hlt]
      intro h
      have hzero : n.digitChar = '0' := Option.some.inj h
      have := Nat.toNat_digitChar_of_lt_ten hlt
      rw [hzero, show '0'.toNat = 48 from rfl] at this
      omega
    · rw [Nat.toDigits_of_base_le (by decide) (by omega),
        List.head?_append, Option.or_of_isSome (List.isSome_head?.mpr Nat.toDigits_ne_nil)]
      exact ih (n / 10) (by omega) (by omega)

/-! ## Words -/

theorem unsigned?_toDigits (n : Nat) : unsigned? (Nat.toDigits 10 n) = some n := by
  by_cases hn : n = 0
  · subst hn
    rfl
  · have hhead := head?_toDigits_ne (Nat.pos_of_ne_zero hn)
    have hidle : hasIdleZero (Nat.toDigits 10 n) = false := by
      unfold hasIdleZero
      split
      · rename_i heq
        exact absurd (by rw [heq]; rfl) hhead
      · rfl
    unfold unsigned?
    split
    case h_4 =>
      rw [hidle, digits?_toDigits]
      rfl
    all_goals
      rename_i heq
      exact absurd (by rw [heq]; rfl) hhead

theorem natWord?_repr (n : Nat) : natWord? n.repr = some n := by
  unfold natWord?
  rw [Nat.toList_repr]
  split
  · rename_i rest heq
    have hdigit : '+'.isDigit := Nat.isDigit_of_mem_toDigits (b := 10) (n := n) (by decide)
      (by decide) (by rw [heq]; exact List.mem_cons_self)
    exact absurd hdigit (by decide)
  · exact unsigned?_toDigits n

theorem natWord?_toString (n : Nat) : natWord? (toString (n : Int)) = some n :=
  natWord?_repr n

theorem intWord?_toString (i : Int) : intWord? (toString i) = some i := by
  cases i with
  | ofNat n =>
    show intWord? n.repr = _
    unfold intWord?
    split
    · rename_i rest heq
      rw [Nat.toList_repr] at heq
      have hdigit : '-'.isDigit := Nat.isDigit_of_mem_toDigits (b := 10) (n := n) (by decide)
        (by decide) (by rw [heq]; exact List.mem_cons_self)
      exact absurd hdigit (by decide)
    · rw [natWord?_repr]
      rfl
  | negSucc n =>
    have hlist : (toString (Int.negSucc n)).toList = '-' :: Nat.toDigits 10 (n + 1) := by
      show ("-" ++ (n + 1).repr).toList = _
      rw [String.toList_append, Nat.toList_repr]
      rfl
    simp only [intWord?, hlist, unsigned?_toDigits]
    rfl

end VirtualPad.Yaml
