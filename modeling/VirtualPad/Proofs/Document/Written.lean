import Mathlib.Data.List.Forall2
import VirtualPad.Document.Yaml.Decode
import VirtualPad.Proofs.Document.Numerals

/-!
# Documents that are read back

What is printed is read as a node, in which a scalar may be a value or still a word. A node shows a
document if it has the same lists and maps and its scalars are those of the document, where a word may
not be plain if it stands for a text and could be taken for something else (`Node.shows`). That a
printed document is read as a node that shows it is `Yaml.Codec.ReadsBack`, and all that is asked of
the way in which documents are written and read.

A way of reading recovers a value from a document if it gives this value for every node that shows
the document (`Decode.Recovers`). There is one lemma for each kind of scalar, for lists, for maps
and for records; what is written for a record may leave out every field that has its default.
-/

namespace VirtualPad

/-! ## Nodes that show documents -/

/-- The word of a scalar that is no text. -/
def Document.word? : Document → Option String
  | .null => some "null"
  | .bool b => some (toString b)
  | .int i => some (toString i)
  | .decimal l => some l
  | .plain w => some w
  | _ => none

/-- Whether a scalar that was read is the one of a document: the same value, or a word for it. -/
def Leaf.shows : Leaf → Document → Bool
  | .null, .null => true
  | .bool b, .bool b' => b == b'
  | .int i, .int i' => i == i'
  | .decimal l, .decimal l' => l == l'
  | .text s, .text s' => s == s'
  | .written style none w, .text s => w == s && (style != .plain || !Yaml.isAmbiguous w)
  | .written .plain none w, d => d.word? == some w
  | _, _ => false

namespace Leaf

variable {l : Leaf}

theorem shows_text {s : String} (h : l.shows (.text s)) :
    l = .text s ∨ ∃ style, l = .written style none s ∧
      (style = .plain → Yaml.isAmbiguous s = false) := by
  unfold shows at h
  split at h
  any_goals contradiction
  · rename_i heq
    cases heq
    exact .inl (congrArg Leaf.text (eq_of_beq h))
  · rename_i style w t heq
    cases heq
    obtain ⟨hw, hstyle⟩ := Bool.and_eq_true_iff.mp h
    obtain rfl := eq_of_beq hw
    refine .inr ⟨style, rfl, ?_⟩
    rintro rfl
    simpa using hstyle
  · rename_i hne
    exact absurd rfl (hne s)

theorem shows_bool {b : Bool} (h : l.shows (.bool b)) :
    l = .bool b ∨ l = .written .plain none (toString b) := by
  unfold shows at h
  split at h
  any_goals contradiction
  · rename_i heq
    cases heq
    exact .inl (congrArg Leaf.bool (eq_of_beq h))
  · exact .inr (congrArg _ (Option.some.inj (eq_of_beq h)).symm)

theorem shows_int {i : Int} (h : l.shows (.int i)) :
    l = .int i ∨ l = .written .plain none (toString i) := by
  unfold shows at h
  split at h
  any_goals contradiction
  · rename_i heq
    cases heq
    exact .inl (congrArg Leaf.int (eq_of_beq h))
  · exact .inr (congrArg _ (Option.some.inj (eq_of_beq h)).symm)

end Leaf

namespace Node

mutual

/-- Whether a node that was read is a document, wherever its parts stand in the text. -/
def shows : Node → Document → Bool
  | .list _ nodes, .list items => showsItems nodes items
  | .map _ nodes, .map entries => showsEntries nodes entries
  | .leaf _ l, d => l.shows d
  | _, _ => false

def showsItems : List Node → List Document → Bool
  | [], [] => true
  | n :: ns, d :: ds => n.shows d && showsItems ns ds
  | _, _ => false

def showsEntries : List (Node × Node) → List (Document × Document) → Bool
  | [], [] => true
  | (m, n) :: ns, (k, d) :: ds => m.shows k && n.shows d && showsEntries ns ds
  | _, _ => false

end

theorem exists_leaf_of_shows {n : Node} {d : Document} (h : n.shows d)
    (hlist : ∀ items, d ≠ .list items) (hmap : ∀ entries, d ≠ .map entries) :
    ∃ p l, n = .leaf p l ∧ l.shows d := by
  unfold shows at h
  split at h
  · exact absurd rfl (hlist _)
  · exact absurd rfl (hmap _)
  · exact ⟨_, _, rfl, h⟩
  · contradiction

theorem forall₂_of_showsItems {nodes : List Node} {items : List Document}
    (h : showsItems nodes items) : List.Forall₂ (fun n d => n.shows d) nodes items := by
  induction nodes generalizing items with
  | nil =>
    cases items with
    | nil => exact .nil
    | cons d ds => contradiction
  | cons n ns ih =>
    cases items with
    | nil => contradiction
    | cons d ds =>
      obtain ⟨hn, hns⟩ := Bool.and_eq_true_iff.mp h
      exact .cons hn (ih hns)

theorem forall₂_of_showsEntries {nodes : List (Node × Node)}
    {entries : List (Document × Document)} (h : showsEntries nodes entries) :
    List.Forall₂ (fun n d => n.1.shows d.1 ∧ n.2.shows d.2) nodes entries := by
  induction nodes generalizing entries with
  | nil =>
    cases entries with
    | nil => exact .nil
    | cons d ds => contradiction
  | cons n ns ih =>
    cases entries with
    | nil => contradiction
    | cons d ds =>
      obtain ⟨hn, hns⟩ := Bool.and_eq_true_iff.mp h
      exact .cons (Bool.and_eq_true_iff.mp hn) (ih hns)

theorem shows_list {n : Node} {items : List Document} (h : n.shows (.list items)) :
    ∃ p nodes, n = .list p nodes ∧ List.Forall₂ (fun n d => n.shows d) nodes items := by
  cases n with
  | list p nodes => exact ⟨p, nodes, rfl, forall₂_of_showsItems h⟩
  | leaf p l =>
    unfold shows Leaf.shows at h
    split at h
    all_goals contradiction
  | _ => contradiction

theorem shows_map {n : Node} {entries : List (Document × Document)} (h : n.shows (.map entries)) :
    ∃ p nodes, n = .map p nodes ∧
      List.Forall₂ (fun n d => n.1.shows d.1 ∧ n.2.shows d.2) nodes entries := by
  cases n with
  | map p nodes => exact ⟨p, nodes, rfl, forall₂_of_showsEntries h⟩
  | leaf p l =>
    unfold shows Leaf.shows at h
    split at h
    all_goals contradiction
  | _ => contradiction

end Node

namespace Decode

variable {α β κ : Type}

/-- A way of reading gives a value for every node that shows a document. -/
def Recovers (read : Node → Decode α) (d : Document) (a : α) : Prop :=
  ∀ n source, n.shows d → (read n).run source = .ok a

theorem run_bind_of_eq_ok {d : Decode α} {f : α → Decode β} {source : Source} {a : α}
    (h : d.run source = .ok a) : (d >>= f).run source = (f a).run source := by
  rw [ReaderT.run_bind, h]
  rfl

theorem mapObstacle_eq_ok {d : Decode α} {source : Source} {a : α} (f : Obstacle → Obstacle)
    (h : d.run source = .ok a) : (d.mapObstacle f).run source = .ok a := by
  show (d.run source).mapError f = _
  rw [h]
  rfl

theorem placed_eq_ok {d : Decode α} {source : Source} {a : α} (p : Place)
    (h : d.run source = .ok a) : (placed p d).run source = .ok a :=
  mapObstacle_eq_ok _ h

theorem within_eq_ok {d : Decode α} {source : Source} {a : α} (step : Step)
    (h : d.run source = .ok a) : (within step d).run source = .ok a :=
  mapObstacle_eq_ok _ h

theorem Recovers.map {read : Node → Decode α} {d : Document} {a : α} (f : α → β)
    (h : Recovers read d a) : Recovers (fun n => f <$> read n) d (f a) := by
  intro n source hn
  rw [ReaderT.run_map, h n source hn]
  rfl

/-! ## Scalars -/

theorem scalar_leaf_eq_ok {expected : String} {ofLeaf : Leaf → Except Flaw α} {l : Leaf} {a : α}
    (p : Place) (source : Source) (h : ofLeaf l = .ok a) :
    (scalar expected ofLeaf (.leaf p l)).run source = .ok a := by
  refine placed_eq_ok p ?_
  rw [h]
  rfl

theorem recovers_scalar {expected : String} {ofLeaf : Leaf → Except Flaw α} {d : Document} {a : α}
    (hlist : ∀ items, d ≠ .list items) (hmap : ∀ entries, d ≠ .map entries)
    (h : ∀ l : Leaf, l.shows d → ofLeaf l = .ok a) : Recovers (scalar expected ofLeaf) d a := by
  intro n source hn
  obtain ⟨p, l, rfl, hl⟩ := Node.exists_leaf_of_shows hn hlist hmap
  exact scalar_leaf_eq_ok p source (h l hl)

theorem recovers_ofKind {expected : String} {ofLeaf? : Leaf → Option α} {d : Document} {a : α}
    (hlist : ∀ items, d ≠ .list items) (hmap : ∀ entries, d ≠ .map entries)
    (h : ∀ l : Leaf, l.shows d → ofLeaf? l = some a) : Recovers (ofKind expected ofLeaf?) d a :=
  recovers_scalar hlist hmap fun l hl => by rw [h l hl]

theorem recovers_ofKind_text (expected s : String) :
    Recovers (ofKind expected Leaf.text?) (.text s) s := by
  refine recovers_ofKind nofun nofun fun l hl => ?_
  obtain rfl | ⟨style, rfl, -⟩ := Leaf.shows_text hl
  · rfl
  · rfl

theorem recovers_text (s : String) : Recovers text (.text s) s := recovers_ofKind_text _ s

theorem recovers_bool (b : Bool) : Recovers bool (.bool b) b := by
  refine recovers_ofKind nofun nofun fun l hl => ?_
  obtain rfl | rfl := Leaf.shows_bool hl
  · rfl
  · cases b <;> rfl

theorem nat?_of_shows {l : Leaf} {n : Nat} (hn : n < 1 <<< 64) (h : l.shows (.nat n)) :
    l.nat? = some n := by
  have hfilter : (some n).filter (· < 1 <<< 64) = some n := if_pos (decide_eq_true hn)
  obtain rfl | rfl := Leaf.shows_int h
  · rw [Leaf.nat?, if_pos (Int.natCast_nonneg n), Int.toNat_natCast]
    exact hfilter
  · show (Yaml.natWord? (toString (n : Int))).filter _ = _
    rw [Yaml.natWord?_toString]
    exact hfilter

theorem int?_of_shows {l : Leaf} {i : Int} (hle : -Int.ofNat (1 <<< 63) ≤ i)
    (hlt : i < Int.ofNat (1 <<< 63)) (h : l.shows (.int i)) : l.int? = some i := by
  have hfilter : (some i).filter
      (fun i => decide (-Int.ofNat (1 <<< 63) ≤ i ∧ i < Int.ofNat (1 <<< 63))) = some i :=
    if_pos (decide_eq_true ⟨hle, hlt⟩)
  obtain rfl | rfl := Leaf.shows_int h
  · exact hfilter
  · show (Yaml.intWord? (toString i)).filter _ = _
    rw [Yaml.intWord?_toString]
    exact hfilter

theorem recovers_natBelow {bound n : Nat} (expected : String) (hbound : bound ≤ 1 <<< 64)
    (h : n < bound) : Recovers (natBelow bound expected) (.nat n) n := by
  refine recovers_scalar nofun nofun fun l hl => ?_
  rw [nat?_of_shows (Nat.lt_of_lt_of_le h hbound) hl]
  exact if_pos h

theorem recovers_uint8 (w : UInt8) : Recovers uint8 (.nat w.toNat) w := by
  have h := (recovers_natBelow "u8" (by decide) w.toNat_lt).map UInt8.ofNat
  rwa [UInt8.ofNat_toNat] at h

theorem recovers_uint32 (w : UInt32) : Recovers uint32 (.nat w.toNat) w := by
  have h := (recovers_natBelow "u32" (by decide) w.toNat_lt).map UInt32.ofNat
  rwa [UInt32.ofNat_toNat] at h

theorem recovers_int32 (w : Int32) : Recovers int32 (.int w.toInt) w := by
  refine recovers_scalar nofun nofun fun l hl => ?_
  have hle := w.le_toInt
  have hlt := w.toInt_lt
  have hpow : Int.ofNat (1 <<< 63) = 9223372036854775808 := rfl
  rw [int?_of_shows (by omega) (by omega) hl]
  dsimp only
  rw [if_pos (by omega), Int32.ofInt_toInt]

theorem recovers_optionalText (s : String) : Recovers optionalText (.text s) (some s) := by
  intro n source hn
  have hsome := (recovers_text s).map some n source hn
  obtain ⟨p, l, rfl, hl⟩ := Node.exists_leaf_of_shows hn nofun nofun
  obtain rfl | ⟨style, rfl, hstyle⟩ := Leaf.shows_text hl
  · exact hsome
  · cases style with
    | plain =>
      -- A word that says that nothing is there is ambiguous, so this one does not.
      have hnull : Yaml.isNullWord s = false := by
        have := hstyle rfl
        simp only [Yaml.isAmbiguous, Bool.or_eq_false_iff] at this
        exact this.1.1.1.1.1
      have htarget : (target (.leaf p (.written .plain none s))).run source =
          .ok (.leaf p (.written .plain none s)) := rfl
      rw [optionalText, run_bind_of_eq_ok htarget]
      dsimp only
      rw [if_neg (by simp [hnull]), if_neg nofun]
      exact hsome
    | literal => exact hsome
    | quoted => exact hsome

/-! ## Collections -/

theorem mapM_eq_ok {f : α → Decode β} {source : Source} {xs : List α} {ys : List β}
    (h : List.Forall₂ (fun x y => (f x).run source = .ok y) xs ys) :
    (xs.mapM f).run source = .ok ys := by
  induction h with
  | nil => rfl
  | cons hx hxs ih =>
    rw [List.mapM_cons, run_bind_of_eq_ok hx, run_bind_of_eq_ok ih]
    rfl

theorem recovers_listOf {item : Node → Decode α} {doc : α → Document}
    (h : ∀ a, Recovers item (doc a) a) (as : List α) :
    Recovers (listOf item) (.list (as.map doc)) as := by
  intro n source hn
  obtain ⟨p, nodes, rfl, hnodes⟩ := Node.shows_list hn
  rw [← List.zipIdx_map_fst 0 nodes, List.forall₂_map_left_iff, List.forall₂_map_right_iff]
    at hnodes
  refine placed_eq_ok p (mapM_eq_ok (hnodes.imp ?_))
  intro x a hx
  exact within_eq_ok _ (h a x.1 source hx)

section

variable [LT κ] [DecidableEq κ] [DecidableLT κ] [KeyOrder κ]

theorem recovers_mapOf {key : Node → Decode κ} {value : Node → Decode α} {keyDoc : κ → Document}
    {doc : α → Document} (hkey : ∀ k, Recovers key (keyDoc k) k)
    (hvalue : ∀ a, Recovers value (doc a) a) (m : OrderedMap κ α) :
    Recovers (mapOf key value) (.map (m.entries.map fun (k, a) => (keyDoc k, doc a))) m := by
  intro n source hn
  obtain ⟨p, nodes, rfl, hnodes⟩ := Node.shows_map hn
  rw [List.forall₂_map_right_iff] at hnodes
  refine placed_eq_ok p ?_
  rw [run_bind_of_eq_ok (mapM_eq_ok (hnodes.imp ?_))]
  · show Except.ok (OrderedMap.ofList m.entries) = _
    rw [OrderedMap.ofList_entries]
  · intro x e hx
    rw [run_bind_of_eq_ok (hkey e.1 x.1 source hx.1),
      run_bind_of_eq_ok (within_eq_ok _ (hvalue e.2 x.2 source hx.2))]
    rfl

end

/-! ## Records -/

/-- What is written for a record leads from a draft to another one: each name is the one of a field
that has not been read, and what is read and set for the field is recovered. -/
inductive Fills (fields : List (Field α)) :
    List (String × Document) → Draft α → Draft α → Prop where
  | done (d : Draft α) : Fills fields [] d d
  | field {β : Type} {name : String} {read : Node → Decode β} {set : α → β → α} {need : Need}
      {doc : Document} {b : β} {rest : List (String × Document)} {d d' : Draft α}
      (known : fields.find? (·.name == name) = some (Decode.field name read set need))
      (unseen : d.seen.contains name = false) (recovers : Recovers read doc b)
      (fills : Fills fields rest ⟨set d.value b, name :: d.seen⟩ d') :
      Fills fields ((name, doc) :: rest) d d'

theorem into_eq_ok {f : Field α} {d : Draft α} {n : Node} {source : Source} {a : α}
    (unseen : d.seen.contains f.name = false) (h : (f.read n d.value).run source = .ok a)
    (step : Step) : (f.into step n d).run source = .ok ⟨a, f.name :: d.seen⟩ := by
  rw [Field.into, unseen, if_neg Bool.false_ne_true, run_bind_of_eq_ok (within_eq_ok step h)]
  rfl

theorem Fills.members_eq_ok {fields : List (Field α)} {written : List (String × Document)}
    {d d' : Draft α} (h : Fills fields written d d') {nodes : List (Node × Node)}
    (hnodes : List.Forall₂ (fun n w => n.1.shows (.text w.1) ∧ n.2.shows w.2) nodes written)
    (source : Source) : (members fields nodes d).run source = .ok d' := by
  induction h generalizing nodes with
  | done d =>
    cases hnodes
    rfl
  | field known unseen recovers _ ih =>
    cases hnodes with
    | @cons n _ ns _ hn hrest =>
      rw [members, List.foldlM_cons, run_bind_of_eq_ok ?_]
      · exact ih hrest
      · rw [run_bind_of_eq_ok (recovers_ofKind_text _ _ n.1 source hn.1), known]
        exact into_eq_ok unseen (recovers.map _ n.2 source hn.2) _

/-- A record is recovered from what fills it, if no field is missing that has to be there. -/
theorem Fills.recovers_record {fields : List (Field α)} {written : List (String × Document)}
    {base a : α} {name : String} (seen : List String)
    (h : Fills fields written { value := base } { value := a, seen })
    (complete : fields.find? (fun f => f.need == .always && !seen.contains f.name) = none) :
    Recovers (record name fields base) (.object written) a := by
  intro n source hn
  obtain ⟨p, nodes, rfl, hnodes⟩ := Node.shows_map hn
  rw [List.forall₂_map_right_iff] at hnodes
  refine placed_eq_ok p ?_
  rw [run_bind_of_eq_ok (h.members_eq_ok hnodes source), Draft.finish, complete]
  rfl

end Decode

/-! ## Texts -/

namespace Yaml

namespace Codec

/-- What is written for a document is read as one document, to its end, and as a node that shows the
document. -/
structure ReadsBack (y : Codec) (d : Document) : Prop where
  whole : (y.read (y.print d)).broken = false
  alone : (y.read (y.print d)).crowded = false
  shows : (y.read (y.print d)).root.shows d

theorem decode_print {y : Codec} {α : Type} {value : Node → Decode α} {d : Document} {a : α}
    (h : y.ReadsBack d) (hvalue : Decode.Recovers value d a) :
    y.decode value (y.print d) = .ok a := by
  have hroot := hvalue _ { named := (y.read (y.print d)).named } h.shows
  simp only [decode, hroot, h.whole, h.alone]
  rfl

end Codec

theorem toList_print (m : Document × Document) (ms : List (Document × Document)) :
    (print (.map (m :: ms))).toList = membersText 0 (m :: ms) := String.toList_ofList

theorem Lexed.ofText_of_toList {text : String} {s : List Char} (h : text.toList = s) :
    ofText text =
      match forbiddenOffset? s with
      | some offset => ⟨[], .forbidden offset⟩
      | none => Lexer.run ((unifyBreaks s).length + 2) { cursor := ⟨{}, unifyBreaks s⟩ } := by
  subst h
  rfl

end Yaml

end VirtualPad
