/-!
# Ordered maps

A finite map kept as a list of entries whose keys grow. What an operation does is said through
`get?`, which also tells maps apart (`ext_get?`).
-/

namespace VirtualPad

/-- Keys in a strict order in which any two different keys compare. -/
class KeyOrder (κ : Type) [LT κ] : Prop where
  irrefl (a : κ) : ¬a < a
  trans {a b c : κ} : a < b → b < c → a < c
  total (a b : κ) : a < b ∨ a = b ∨ b < a

instance : KeyOrder UInt8 where
  irrefl := UInt8.lt_irrefl
  trans := UInt8.lt_trans
  total a b := by
    simp only [UInt8.lt_iff_toNat_lt, ← UInt8.toNat_inj]
    exact Nat.lt_trichotomy _ _

instance : KeyOrder UInt32 where
  irrefl := UInt32.lt_irrefl
  trans := UInt32.lt_trans
  total a b := by
    simp only [UInt32.lt_iff_toNat_lt, ← UInt32.toNat_inj]
    exact Nat.lt_trichotomy _ _

instance : KeyOrder String where
  irrefl := String.lt_irrefl
  trans := String.lt_trans
  total a b := by
    by_cases h : a < b
    · exact .inl h
    · by_cases h' : b < a
      · exact .inr (.inr h')
      · exact .inr (.inl (String.le_antisymm (String.not_lt.mp h') (String.not_lt.mp h)))

/-- A finite map from keys to values. -/
structure OrderedMap (κ α : Type) [LT κ] where
  entries : List (κ × α)
  /-- The keys grow from entry to entry. -/
  ordered : entries.Pairwise fun a b => a.1 < b.1
  deriving DecidableEq

namespace OrderedMap

variable {κ α β : Type} [LT κ]

instance [Repr κ] [Repr α] : Repr (OrderedMap κ α) := ⟨fun m => reprPrec m.entries⟩

def empty : OrderedMap κ α := ⟨[], .nil⟩

instance : Inhabited (OrderedMap κ α) := ⟨empty⟩

def keys (m : OrderedMap κ α) : List κ := m.entries.map (·.1)

def size (m : OrderedMap κ α) : Nat := m.entries.length

def isEmpty (m : OrderedMap κ α) : Bool := m.entries.isEmpty

theorem eq_empty_of_isEmpty {m : OrderedMap κ α} (h : m.isEmpty) : m = empty := by
  obtain ⟨entries, ordered⟩ := m
  obtain rfl := List.isEmpty_iff.mp h
  rfl

def map (f : α → β) (m : OrderedMap κ α) : OrderedMap κ β :=
  ⟨m.entries.map fun (k, a) => (k, f a), m.ordered.map _ fun _ _ h => h⟩

/-- Keep the entries that satisfy a condition. -/
def filter (m : OrderedMap κ α) (keep : κ × α → Bool) : OrderedMap κ α :=
  ⟨m.entries.filter keep, m.ordered.filter _⟩

variable [DecidableEq κ]

def find? (key : κ) : List (κ × α) → Option α
  | [] => none
  | (k, a) :: rest => if k = key then some a else find? key rest

def get? (m : OrderedMap κ α) (key : κ) : Option α := find? key m.entries

def contains (m : OrderedMap κ α) (key : κ) : Bool := (m.get? key).isSome

def erase (m : OrderedMap κ α) (key : κ) : OrderedMap κ α := m.filter fun entry => entry.1 ≠ key

variable [DecidableLT κ]

/-- Store a value in a list of entries, in front of the first greater key. -/
def put (key : κ) (value : α) : List (κ × α) → List (κ × α)
  | [] => [(key, value)]
  | (k, a) :: rest =>
    if k = key then (key, value) :: rest
    else if key < k then (key, value) :: (k, a) :: rest
    else (k, a) :: put key value rest

theorem mem_put {key : κ} {value : α} {entries : List (κ × α)} {e : κ × α}
    (h : e ∈ put key value entries) : e = (key, value) ∨ e ∈ entries := by
  induction entries with
  | nil => simpa [put] using h
  | cons x rest ih =>
    obtain ⟨k, a⟩ := x
    simp only [put] at h
    split at h
    · rcases List.mem_cons.mp h with h | h
      · exact .inl h
      · exact .inr (List.mem_cons_of_mem _ h)
    · split at h
      · exact List.mem_cons.mp h
      · rcases List.mem_cons.mp h with h | h
        · exact .inr (h ▸ List.mem_cons_self ..)
        · exact (ih h).imp_right (List.mem_cons_of_mem _)

section

variable [KeyOrder κ]

theorem pairwise_put (key : κ) (value : α) {entries : List (κ × α)}
    (h : entries.Pairwise fun a b => a.1 < b.1) :
    (put key value entries).Pairwise fun a b => a.1 < b.1 := by
  induction entries with
  | nil => exact List.pairwise_singleton ..
  | cons x rest ih =>
    obtain ⟨k, a⟩ := x
    obtain ⟨hx, hrest⟩ := List.pairwise_cons.mp h
    simp only [put]
    split
    · rename_i hk
      exact List.pairwise_cons.mpr ⟨hk ▸ hx, hrest⟩
    · split
      · rename_i hlt
        refine List.pairwise_cons.mpr ⟨fun e he => ?_, h⟩
        rcases List.mem_cons.mp he with rfl | he
        · exact hlt
        · exact KeyOrder.trans hlt (hx e he)
      · rename_i hne hlt
        refine List.pairwise_cons.mpr ⟨fun e he => ?_, ih hrest⟩
        rcases mem_put he with rfl | he
        · rcases KeyOrder.total k key with hk | hk | hk
          · exact hk
          · exact absurd hk hne
          · exact absurd hk hlt
        · exact hx e he

/-- Store a value under a key, in place of what was stored there. -/
def insert (m : OrderedMap κ α) (key : κ) (value : α) : OrderedMap κ α :=
  ⟨put key value m.entries, pairwise_put key value m.ordered⟩

/-- The map of a list of entries; of two entries with the same key the later one counts. -/
def ofList (entries : List (κ × α)) : OrderedMap κ α :=
  entries.foldl (fun m (k, a) => m.insert k a) empty

theorem get?_insert (m : OrderedMap κ α) (key other : κ) (value : α) :
    (m.insert key value).get? other = if key = other then some value else m.get? other := by
  obtain ⟨entries, ordered⟩ := m
  simp only [insert, get?]
  clear ordered
  induction entries with
  | nil => simp [put, find?]
  | cons e rest ih =>
    obtain ⟨k, a⟩ := e
    simp only [put]
    split
    · rename_i h
      subst h
      simp only [find?]
      split <;> rfl
    · split
      · simp [find?]
      · rename_i hk _
        simp only [find?, ih]
        split <;> split <;> simp_all

theorem size_insert_of_get?_eq_none {m : OrderedMap κ α} {key : κ} (h : m.get? key = none)
    (value : α) : (m.insert key value).size = m.size + 1 := by
  obtain ⟨entries, ordered⟩ := m
  simp only [insert, get?, size] at h ⊢
  clear ordered
  induction entries with
  | nil => rfl
  | cons e rest ih =>
    obtain ⟨k, a⟩ := e
    simp only [find?] at h
    split at h
    · simp at h
    · rename_i hk
      simp only [put, hk, if_false]
      split
      · rfl
      · simp [ih h]

end

/-! ## Lookup -/

omit [DecidableLT κ]

@[simp] theorem get?_empty (key : κ) : (empty : OrderedMap κ α).get? key = none := rfl

theorem get?_erase (m : OrderedMap κ α) (key other : κ) :
    (m.erase key).get? other = if key = other then none else m.get? other := by
  obtain ⟨entries, ordered⟩ := m
  simp only [erase, filter, get?]
  clear ordered
  induction entries with
  | nil => simp [find?]
  | cons e rest ih =>
    obtain ⟨k, a⟩ := e
    by_cases h : k = key
    · subst h
      simp only [ne_eq, not_true_eq_false, decide_false, Bool.false_eq_true, not_false_eq_true,
        List.filter_cons_of_neg, ih, find?]
      split <;> simp_all
    · simp only [ne_eq, h, not_false_eq_true, decide_true, List.filter_cons_of_pos, find?, ih]
      split <;> split <;> simp_all

theorem get?_map (f : α → β) (m : OrderedMap κ α) (key : κ) :
    (m.map f).get? key = (m.get? key).map f := by
  obtain ⟨entries, ordered⟩ := m
  simp only [map, get?]
  clear ordered
  induction entries with
  | nil => rfl
  | cons e rest ih =>
    obtain ⟨k, a⟩ := e
    simp only [List.map_cons, find?, ih]
    split <;> rfl

omit [DecidableEq κ] in
theorem keys_map (f : α → β) (m : OrderedMap κ α) : (m.map f).keys = m.keys := by
  simp [keys, map]

theorem contains_map (f : α → β) (m : OrderedMap κ α) (key : κ) :
    (m.map f).contains key = m.contains key := by
  rw [contains, contains, get?_map, Option.isSome_map]

omit [DecidableEq κ] in
theorem filter_map (f : α → β) (m : OrderedMap κ α) (keep : κ × β → Bool) :
    (m.map f).filter keep = (m.filter fun entry => keep (entry.1, f entry.2)).map f := by
  simp only [filter, map, List.filter_map]
  rfl

theorem find?_eq_some_iff [KeyOrder κ] {entries : List (κ × α)}
    (ordered : entries.Pairwise fun a b => a.1 < b.1) {key : κ} {value : α} :
    find? key entries = some value ↔ (key, value) ∈ entries := by
  induction entries with
  | nil => simp [find?]
  | cons e rest ih =>
    obtain ⟨k, a⟩ := e
    obtain ⟨hx, hrest⟩ := List.pairwise_cons.mp ordered
    simp only [find?, List.mem_cons, Prod.mk.injEq]
    split
    · rename_i hk
      subst hk
      simp only [Option.some.injEq, true_and]
      constructor
      · exact fun h => .inl h.symm
      · rintro (h | h)
        · exact h.symm
        · exact absurd (hx _ h) (KeyOrder.irrefl k)
    · rename_i hk
      rw [ih hrest]
      constructor
      · exact .inr
      · rintro (⟨h, _⟩ | h)
        · exact absurd h.symm hk
        · exact h

theorem get?_eq_some_iff [KeyOrder κ] {m : OrderedMap κ α} {key : κ} {value : α} :
    m.get? key = some value ↔ (key, value) ∈ m.entries :=
  find?_eq_some_iff m.ordered

theorem get?_foldl_insert [DecidableLT κ] [KeyOrder κ] {entries : List (κ × α)}
    (distinct : (entries.map (·.1)).Nodup) (m : OrderedMap κ α) {key : κ} {value : α} :
    (entries.foldl (fun m (k, a) => m.insert k a) m).get? key = some value ↔
      (key, value) ∈ entries ∨ key ∉ entries.map (·.1) ∧ m.get? key = some value := by
  induction entries generalizing m with
  | nil => simp
  | cons e rest ih =>
    obtain ⟨k, a⟩ := e
    obtain ⟨hk, hrest⟩ := List.nodup_cons.mp distinct
    rw [List.foldl_cons, ih hrest, get?_insert]
    by_cases h : k = key
    · subst h
      have hmem : (k, value) ∉ rest := fun h => hk (List.mem_map.mpr ⟨_, h, rfl⟩)
      simp [hmem, hk, eq_comm]
    · simp [h, Ne.symm h]

/-- Entries with distinct keys are all in the map of them. -/
theorem get?_ofList_eq_some_iff [DecidableLT κ] [KeyOrder κ] {entries : List (κ × α)}
    (distinct : (entries.map (·.1)).Nodup) {key : κ} {value : α} :
    (ofList entries).get? key = some value ↔ (key, value) ∈ entries := by
  rw [ofList, get?_foldl_insert distinct]
  simp

theorem get?_filter [KeyOrder κ] (m : OrderedMap κ α) (keep : κ × α → Bool) (key : κ) :
    (m.filter keep).get? key = (m.get? key).filter fun a => keep (key, a) := by
  refine Option.ext fun value => ?_
  rw [Option.filter_eq_some_iff, get?_eq_some_iff, get?_eq_some_iff]
  exact List.mem_filter

/-! ## Extensionality -/

section

variable [KeyOrder κ]

theorem find?_eq_none_of_lt {key : κ} {entries : List (κ × α)}
    (h : ∀ e ∈ entries, key < e.1) : find? key entries = none := by
  induction entries with
  | nil => rfl
  | cons e rest ih =>
    obtain ⟨k, a⟩ := e
    have hk : k ≠ key := fun hk =>
      KeyOrder.irrefl key (hk ▸ h (k, a) (List.mem_cons_self ..))
    simp only [find?, hk, if_false]
    exact ih fun e he => h e (List.mem_cons_of_mem _ he)

theorem entries_ext {l r : List (κ × α)} (hl : l.Pairwise fun a b => a.1 < b.1)
    (hr : r.Pairwise fun a b => a.1 < b.1) (h : ∀ key, find? key l = find? key r) : l = r := by
  induction l generalizing r with
  | nil =>
    cases r with
    | nil => rfl
    | cons e r => have := h e.1; simp [find?] at this
  | cons e l ih =>
    cases r with
    | nil => have := h e.1; simp [find?] at this
    | cons e' r =>
      obtain ⟨k, a⟩ := e
      obtain ⟨k', a'⟩ := e'
      obtain ⟨hkl, hl'⟩ := List.pairwise_cons.mp hl
      obtain ⟨hkr, hr'⟩ := List.pairwise_cons.mp hr
      have below {key k : κ} {s : List (κ × α)} (hk : key < k) (hs : ∀ e ∈ s, k < e.1) :
          find? key s = none :=
        find?_eq_none_of_lt fun e he => KeyOrder.trans hk (hs e he)
      rcases KeyOrder.total k k' with hk | hk | hk
      · have hne : k' ≠ k := fun he => KeyOrder.irrefl k (he ▸ hk)
        have := h k
        simp [find?, hne, below hk hkr] at this
      · subst hk
        have ha := h k
        simp only [find?, if_true, Option.some.injEq] at ha
        subst ha
        refine congrArg _ (ih hl' hr' fun key => ?_)
        by_cases hkey : k = key
        · subst hkey
          rw [find?_eq_none_of_lt hkl, find?_eq_none_of_lt hkr]
        · have := h key
          simpa [find?, hkey] using this
      · have hne : k ≠ k' := fun he => KeyOrder.irrefl k (he ▸ hk)
        have := h k'
        simp [find?, hne, below hk hkl] at this

theorem ext_get? {m n : OrderedMap κ α} (h : ∀ key, m.get? key = n.get? key) : m = n := by
  obtain ⟨l, hl⟩ := m
  obtain ⟨r, hr⟩ := n
  have := entries_ext hl hr h
  subst this
  rfl

theorem insert_map [DecidableLT κ] (f : α → β) (m : OrderedMap κ α) (key : κ) (value : α) :
    (m.map f).insert key (f value) = (m.insert key value).map f := by
  refine ext_get? fun other => ?_
  simp only [get?_insert, get?_map]
  split <;> rfl

omit [DecidableEq κ] in
theorem nodup_keys (m : OrderedMap κ α) : m.keys.Nodup := by
  rw [keys, List.nodup_iff_pairwise_ne, List.pairwise_map]
  refine m.ordered.imp ?_
  intro a b hlt heq
  rw [heq] at hlt
  exact KeyOrder.irrefl b.1 hlt

theorem ofList_entries [DecidableLT κ] (m : OrderedMap κ α) : ofList m.entries = m := by
  refine ext_get? fun key => Option.ext fun value => ?_
  rw [get?_ofList_eq_some_iff m.nodup_keys, get?_eq_some_iff]

end

end OrderedMap

end VirtualPad
