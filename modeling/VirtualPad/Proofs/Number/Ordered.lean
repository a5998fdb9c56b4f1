import VirtualPad.Number.Scalar

/-!
# The order of scalars

Numbers in finite precision are ordered, except for values that are not numbers, which compare with
nothing. `OrderedScalar` has just that, and both precisions of floating point have it: their
comparison is one function into `Option Ordering`, which is `none` exactly next to a value that is
not a number, and which turns around when its arguments do.
-/

namespace VirtualPad

open Scalar

/-- Scalars that are ordered as far as they are numbers. -/
class OrderedScalar (α : Type) [Scalar α] : Prop where
  le_self {a : α} : isNaN a = false → le a a = true
  le_or_lt {a b : α} : isNaN a = false → isNaN b = false → le a b = true ∨ lt b a = true
  isNaN_of_le {a b : α} : le a b = true → isNaN a = false ∧ isNaN b = false

section

variable {α : Type} [Scalar α] [OrderedScalar α] {low high a : α}

open OrderedScalar

theorem within_clamp (hbounds : le low high = true) (ha : isNaN a = false) :
    within low high (clamp low high a) = true := by
  obtain ⟨hlow, hhigh⟩ := isNaN_of_le hbounds
  unfold clamp within
  rw [Bool.and_eq_true]
  by_cases hbelow : lt a low = true
  · rw [if_pos hbelow]
    exact ⟨le_self hlow, hbounds⟩
  · rw [if_neg hbelow]
    by_cases habove : lt high a = true
    · rw [if_pos habove]
      exact ⟨hbounds, le_self hhigh⟩
    · rw [if_neg habove]
      exact ⟨(le_or_lt hlow ha).resolve_right hbelow, (le_or_lt ha hhigh).resolve_right habove⟩

/-- What clamping does not bring between the bounds is not a number. -/
theorem within_clamp_or_isNaN (hbounds : le low high = true) :
    within low high (clamp low high a) = true ∨ isNaN (clamp low high a) = true := by
  cases ha : isNaN a with
  | false => exact .inl (within_clamp hbounds ha)
  | true =>
    obtain ⟨hlow, hhigh⟩ := isNaN_of_le hbounds
    unfold clamp
    split
    · left
      rw [within, le_self hlow, hbounds]
      rfl
    · split
      · left
        rw [within, le_self hhigh, hbounds]
        rfl
      · exact .inr ha

end

/-! ## Floating point -/

namespace Floating

open Float.Model (UnpackedFloat)

theorem swap_then_compare (e e' : Int) (m m' : Nat) :
    ((compare e e').then (compare m m')).swap = (compare e' e).then (compare m' m) := by
  rw [Ordering.swap_then, ← Std.OrientedCmp.eq_swap, ← Std.OrientedCmp.eq_swap]

theorem compare_swap (x y : UnpackedFloat) : y.compare x = (x.compare y).map Ordering.swap := by
  cases x with
  | notANumber => cases y <;> rfl
  | infinity s =>
    cases y with
    | notANumber => cases s <;> rfl
    | infinity s' => cases s <;> cases s' <;> rfl
    | zero s' => cases s <;> rfl
    | finite s' m e h => cases s <;> cases s' <;> rfl
  | zero s =>
    cases y with
    | notANumber => rfl
    | infinity s' => cases s' <;> rfl
    | zero s' => rfl
    | finite s' m e h => cases s' <;> rfl
  | finite s m e h =>
    cases y with
    | notANumber => cases s <;> rfl
    | infinity s' => cases s <;> cases s' <;> rfl
    | zero s' => cases s <;> rfl
    | finite s' m' e' h' =>
      cases s with
      | negative =>
        cases s' with
        | negative => exact congrArg (fun o => some o.swap) (swap_then_compare e e' m m').symm
        | positive => rfl
      | positive =>
        cases s' with
        | negative => rfl
        | positive => exact congrArg some (swap_then_compare e e' m m').symm

theorem isSome_compare {x y : UnpackedFloat} (hx : x ≠ .notANumber) (hy : y ≠ .notANumber) :
    (x.compare y).isSome = true := by
  cases x with
  | notANumber => exact absurd rfl hx
  | infinity s =>
    cases y with
    | notANumber => exact absurd rfl hy
    | infinity s' => cases s <;> cases s' <;> rfl
    | _ => cases s <;> rfl
  | zero s =>
    cases y with
    | notANumber => exact absurd rfl hy
    | zero s' => rfl
    | infinity s' => cases s' <;> rfl
    | finite s' m e h => cases s' <;> rfl
  | finite s m e h =>
    cases y with
    | notANumber => exact absurd rfl hy
    | zero s' => cases s <;> rfl
    | infinity s' => cases s <;> cases s' <;> rfl
    | finite s' m' e' h' => cases s <;> cases s' <;> rfl

theorem isSome_compare_iff (x y : UnpackedFloat) :
    (x.compare y).isSome = true ↔ x ≠ .notANumber ∧ y ≠ .notANumber := by
  constructor
  · intro h
    constructor
    · rintro rfl
      cases h
    · rintro rfl
      rw [compare_swap .notANumber] at h
      cases h
  · exact fun h => isSome_compare h.1 h.2

theorem compare_self {x : UnpackedFloat} (hx : x ≠ .notANumber) : x.compare x = some .eq := by
  obtain ⟨o, ho⟩ := Option.isSome_iff_exists.mp ((isSome_compare_iff x x).mpr ⟨hx, hx⟩)
  -- It is its own reverse.
  have hswap := compare_swap x x
  rw [ho, Option.map_some, Option.some.injEq] at hswap
  rw [ho]
  cases o with
  | eq => rfl
  | lt => cases hswap
  | gt => cases hswap

/-- Every type of numbers that compares as unpacked numbers do is ordered. -/
theorem orderedScalar {α : Type} [Scalar α] (unpack : α → UnpackedFloat)
    (hle : ∀ a b, le a b = ((unpack a).compare (unpack b)).any Ordering.isLE)
    (hlt : ∀ a b, lt a b = ((unpack a).compare (unpack b) == some .lt))
    (heq : ∀ a b, eq a b = ((unpack a).compare (unpack b) == some .eq)) : OrderedScalar α := by
  have hnumber (a : α) : isNaN a = false ↔ unpack a ≠ .notANumber := by
    rw [isNaN, heq, Bool.not_eq_false', beq_iff_eq]
    constructor
    · intro h
      exact ((isSome_compare_iff ..).mp (by rw [h]; rfl)).1
    · exact compare_self
  refine ⟨fun {a} ha => ?_, fun {a b} ha hb => ?_, fun {a b} h => ?_⟩
  · rw [hle, compare_self ((hnumber a).mp ha)]
    rfl
  · obtain ⟨o, ho⟩ := Option.isSome_iff_exists.mp
      ((isSome_compare_iff _ _).mpr ⟨(hnumber a).mp ha, (hnumber b).mp hb⟩)
    rw [hle, hlt, compare_swap (unpack a), ho]
    cases o with
    | lt => exact .inl rfl
    | eq => exact .inl rfl
    | gt => exact .inr rfl
  · rw [hle] at h
    obtain ⟨o, ho, -⟩ := (Option.any_eq_true ..).mp h
    obtain ⟨ha, hb⟩ := (isSome_compare_iff (unpack a) (unpack b)).mp (by rw [ho]; rfl)
    exact ⟨(hnumber a).mpr ha, (hnumber b).mpr hb⟩

instance : OrderedScalar Float32 :=
  orderedScalar (fun a => a.toModel.unpack)
    (fun _ _ => Bool.decide_eq_true.trans Bool.decide_eq_true)
    (fun _ _ => Bool.decide_eq_true.trans Bool.decide_eq_true) fun _ _ => rfl

instance : OrderedScalar Float :=
  orderedScalar (fun a => a.toModel.unpack)
    (fun _ _ => Bool.decide_eq_true.trans Bool.decide_eq_true)
    (fun _ _ => Bool.decide_eq_true.trans Bool.decide_eq_true) fun _ _ => rfl

end Floating

end VirtualPad
