import Mathlib.Algebra.Group.Nat.Defs
import VirtualPad.ElementMapper.Contribution

/-!
# Leaves of element mappers

`served` lists the leaves of a tree in the order in which they are written, each with the reading
that arrives at it. Whatever the reading, the leaves are all of them (`served_fst`), and up to the
order in which a split serves its halves a tree contributes what its leaves contribute
(`contributions_perm`). What a mapping adds up or reports is thereby a question about single leaves.

A tree that keeps to the child limit has few leaves for its depth (`length_leaves`).
-/

namespace VirtualPad.ElementMapper

/-- A leaf of an element mapper. -/
inductive Leaf where
  | axis (axis : Axis) (direction : AxisDirection)
  | digitalAxis (axis : Axis) (direction : AxisDirection)
  | button (button : Button)
  | pov (direction : PovDirection)
  | key (code : UInt8)
  | mouseAxis (axis : MouseAxis) (direction : AxisDirection)
  | mouseButton (button : MouseButton)
  deriving DecidableEq, Repr

/-- What a leaf makes of the reading that arrives at it. -/
def Leaf.contribution : Leaf → Reading → Contribution
  | .axis a d, r => .axis a (r.axisValue d)
  | .digitalAxis a d, r => .axis a (r.digitalAxisValue d)
  | .button b, r => .button b r.isPressed
  | .pov d, r => .pov d r.isPressed
  | .key code, r => .desktop (.key code r.isPressed)
  | .mouseAxis a d, r => .desktop (.mouseAxis a (r.axisValue d))
  | .mouseButton b, r => .desktop (.mouseButton b r.isPressed)

mutual

/-- The leaves of a tree, in the order in which they are written. -/
def leaves : ElementMapper → List Leaf
  | .axis a d => [.axis a d]
  | .digitalAxis a d => [.digitalAxis a d]
  | .button b => [.button b]
  | .pov d => [.pov d]
  | .key code => [.key code]
  | .mouseAxis a d => [.mouseAxis a d]
  | .mouseButton b => [.mouseButton b]
  | .invert t => t.leaves
  | .split p n => p.leaves ++ n.leaves
  | .compound ts => leavesAll ts
  | .null => []

def leavesAll : List ElementMapper → List Leaf
  | [] => []
  | t :: ts => t.leaves ++ leavesAll ts

end

mutual

/-- The leaves of a tree, each with the reading that arrives at it. -/
def served : ElementMapper → Reading → List (Leaf × Reading)
  | .axis a d, r => [(.axis a d, r)]
  | .digitalAxis a d, r => [(.digitalAxis a d, r)]
  | .button b, r => [(.button b, r)]
  | .pov d, r => [(.pov d, r)]
  | .key code, r => [(.key code, r)]
  | .mouseAxis a d, r => [(.mouseAxis a d, r)]
  | .mouseButton b, r => [(.mouseButton b, r)]
  | .invert t, r => t.served r.mirror
  | .split p n, r => p.served r.halves.positive ++ n.served r.halves.negative
  | .compound ts, r => servedAll ts r
  | .null, _ => []

def servedAll : List ElementMapper → Reading → List (Leaf × Reading)
  | [], _ => []
  | t :: ts, r => t.served r ++ servedAll ts r

end

/-! ## Every leaf is served -/

mutual

theorem served_fst (t : ElementMapper) (r : Reading) : (t.served r).map Prod.fst = t.leaves := by
  cases t with
  | invert t =>
    rw [served, leaves]
    exact served_fst t r.mirror
  | split p n =>
    rw [served, leaves, List.map_append, served_fst p, served_fst n]
  | compound ts =>
    rw [served, leaves]
    exact servedAll_fst ts r
  | _ => rfl

theorem servedAll_fst (ts : List ElementMapper) (r : Reading) :
    (servedAll ts r).map Prod.fst = leavesAll ts := by
  cases ts with
  | nil => rfl
  | cons t ts =>
    rw [servedAll, leavesAll, List.map_append, served_fst t, servedAll_fst ts]

end

theorem length_served (t : ElementMapper) (r : Reading) :
    (t.served r).length = t.leaves.length := by
  rw [← served_fst t r, List.length_map]

mutual

theorem served_rest (t : ElementMapper) : ∀ x ∈ t.served .rest, x.2 = .rest := by
  cases t with
  | invert t =>
    rw [served]
    exact served_rest t
  | split p n =>
    intro x hx
    rw [served, List.mem_append] at hx
    rcases hx with hx | hx
    · exact served_rest p x hx
    · exact served_rest n x hx
  | compound ts =>
    rw [served]
    exact servedAll_rest ts
  | _ => simp [served]

theorem servedAll_rest (ts : List ElementMapper) : ∀ x ∈ servedAll ts .rest, x.2 = .rest := by
  cases ts with
  | nil => simp [servedAll]
  | cons t ts =>
    intro x hx
    rw [servedAll, List.mem_append] at hx
    rcases hx with hx | hx
    · exact served_rest t x hx
    · exact servedAll_rest ts x hx

end

/-! ## What leaves contribute -/

/-- What some leaves contribute, each from the reading that arrives at it. -/
def gathered (xs : List (Leaf × Reading)) : List Contribution :=
  xs.map fun x => x.1.contribution x.2

theorem gathered_append (xs ys : List (Leaf × Reading)) :
    gathered (xs ++ ys) = gathered xs ++ gathered ys := List.map_append

mutual

theorem contributions_perm (t : ElementMapper) (r : Reading) :
    (t.contributions r).Perm (gathered (t.served r)) := by
  cases t with
  | invert t =>
    rw [contributions, served]
    exact contributions_perm t r.mirror
  | split p n =>
    have hp := contributions_perm p r.halves.positive
    have hn := contributions_perm n r.halves.negative
    rw [contributions, served, gathered_append]
    -- The half that the reading lies in goes first; the leaves are listed with `p` in front.
    split
    · exact hp.append hn
    · exact (hn.append hp).trans List.perm_append_comm
  | compound ts =>
    rw [contributions, served]
    exact contributionsAll_perm ts r
  | _ => exact .refl _

theorem contributionsAll_perm (ts : List ElementMapper) (r : Reading) :
    (contributionsAll ts r).Perm (gathered (servedAll ts r)) := by
  cases ts with
  | nil => exact .refl _
  | cons t ts =>
    rw [contributionsAll, servedAll, gathered_append]
    exact (contributions_perm t r).append (contributionsAll_perm ts r)

end

theorem mem_contributions {t : ElementMapper} {r : Reading} {c : Contribution} :
    c ∈ t.contributions r ↔ ∃ x ∈ t.served r, x.1.contribution x.2 = c := by
  rw [(contributions_perm t r).mem_iff, gathered, List.mem_map]

theorem length_contributions (t : ElementMapper) (r : Reading) :
    (t.contributions r).length = t.leaves.length := by
  rw [(contributions_perm t r).length_eq, gathered, List.length_map, length_served]

/-! ## How many leaves there are -/

mutual

theorem length_leaves {t : ElementMapper} (h : t.KeepsLimit) :
    childLimit * t.leaves.length ≤ childLimit ^ t.depth := by
  cases t with
  | invert t =>
    rw [KeepsLimit] at h
    rw [leaves, depth]
    exact Nat.le_trans (length_leaves h) (Nat.pow_le_pow_right (by decide) (Nat.le_succ _))
  | split p n =>
    rw [KeepsLimit] at h
    have hp := length_leaves h.1
    have hn := length_leaves h.2
    have hp' : childLimit ^ p.depth ≤ childLimit ^ max p.depth n.depth :=
      Nat.pow_le_pow_right (by decide) (Nat.le_max_left ..)
    have hn' : childLimit ^ n.depth ≤ childLimit ^ max p.depth n.depth :=
      Nat.pow_le_pow_right (by decide) (Nat.le_max_right ..)
    have htwo : childLimit ^ max p.depth n.depth * 2
        ≤ childLimit ^ max p.depth n.depth * childLimit := Nat.mul_le_mul_left _ (by decide)
    rw [leaves, depth, List.length_append, Nat.mul_add, Nat.pow_succ]
    omega
  | compound ts =>
    rw [KeepsLimit] at h
    rw [leaves, depth, Nat.pow_succ, Nat.mul_comm (_ ^ _)]
    exact Nat.le_trans (length_leavesAll h.2.2) (Nat.mul_le_mul_right _ h.2.1)
  | null => simp [leaves]
  | _ => simp [leaves, depth]

theorem length_leavesAll {ts : List ElementMapper} (h : KeepLimit ts) :
    childLimit * (leavesAll ts).length ≤ ts.length * childLimit ^ depthAll ts := by
  cases ts with
  | nil => simp [leavesAll]
  | cons t ts =>
    rw [KeepLimit] at h
    have ht := length_leaves h.1
    have hts := length_leavesAll h.2
    have ht' : childLimit ^ t.depth ≤ childLimit ^ max t.depth (depthAll ts) :=
      Nat.pow_le_pow_right (by decide) (Nat.le_max_left ..)
    have hts' : ts.length * childLimit ^ depthAll ts
        ≤ ts.length * childLimit ^ max t.depth (depthAll ts) :=
      Nat.mul_le_mul_left _ (Nat.pow_le_pow_right (by decide) (Nat.le_max_right ..))
    rw [leavesAll, depthAll, List.length_append, List.length_cons, Nat.mul_add, Nat.succ_mul]
    omega

end

end VirtualPad.ElementMapper
