import Mathlib.Data.List.Basic
import VirtualPad.Force.Direction

/-!
# Coordinates and components

A direction is set and read in three kinds of coordinates, each with its own number of them. However
often it has been set, and whatever was rejected in between, the numbers fit: `Counted` says how many
components there are and which readers succeed, and `setAll_counted` that this holds after every
history of calls, with what a further call does.

Nothing here depends on what the functions on angles compute, so no laws of numbers are assumed.
-/

namespace VirtualPad.Direction

variable {V W : Type} [Scalar V] [Scalar W] [Precision V W]

open Scalar Precision

/-- Set a direction again and again. A rejected call is passed over. -/
def setAll (d : Direction V) (calls : List (CoordinateSystem × List V)) : Direction V :=
  calls.foldl (fun d (system, coordinates) => (d.set system coordinates).1) d

/-- The coordinates that may be set: one to three components that are not all zero, one angle, or
one or two angles, each of them less than a full turn. -/
def Acceptable : CoordinateSystem → List V → Prop
  | .cartesian, cs => 1 ≤ cs.length ∧ cs.length ≤ 3 ∧ ∃ c ∈ cs, eq c zero = false
  | .polar, angles =>
    angles.length = 1 ∧ ∀ a ∈ angles, le zero a = true ∧ le a (ofWord 35999) = true
  | .spherical, angles =>
    1 ≤ angles.length ∧ angles.length ≤ 2 ∧
      ∀ a ∈ angles, le zero a = true ∧ le a (ofWord 35999) = true

/-- How many components coordinates make. -/
def componentsMade : CoordinateSystem → Nat → Nat
  | .cartesian, count => count
  | .polar, _ => 2
  | .spherical, count => count + 1

/-! ## Setting -/

theorem isAngle_iff {a : V} :
    isAngle a = true ↔ le zero a = true ∧ le a (ofWord 35999) = true := by
  rw [isAngle, within, Bool.and_eq_true]

theorem length_raise (cs : List W) (angle : W) : (raise cs angle).length = cs.length + 1 := by
  rw [raise, List.length_append, List.length_map]
  rfl

theorem length_foldl_raise (rest cs : List W) :
    (rest.foldl raise cs).length = cs.length + rest.length := by
  induction rest generalizing cs with
  | nil => rfl
  | cons angle rest ih =>
    rw [List.foldl_cons, ih, length_raise, List.length_cons]
    omega

omit [Scalar V] in
theorem length_ofAngles {angles : List V} (hne : angles ≠ []) :
    (ofAngles angles).length = angles.length + 1 := by
  cases angles with
  | nil => exact absurd rfl hne
  | cons a rest =>
    rw [ofAngles, List.length_map, List.map_cons, unitComponents, length_foldl_raise,
      List.length_map, List.length_cons, List.length_cons]
    show 2 + rest.length = rest.length + 1 + 1
    omega

omit [Scalar V] in
theorem not_count_iff {cs : List V} {limit : Nat} :
    ¬ (cs = [] ∨ limit < cs.length) ↔ 1 ≤ cs.length ∧ cs.length ≤ limit := by
  rw [not_or, Nat.not_lt]
  exact and_congr_left fun _ => List.length_pos_iff.symm

theorem setCartesian_cases (d : Direction V) (cs : List V) :
    (Acceptable .cartesian cs ∧
      ∃ made, d.setCartesian cs = (⟨made, .cartesian⟩, .ok ()) ∧ made.length = cs.length) ∨
      (¬ Acceptable .cartesian cs ∧ ∃ e, d.setCartesian cs = (d, .error e)) := by
  unfold setCartesian
  by_cases hcount : cs = [] ∨ directionAxisLimit < cs.length
  · rw [if_pos hcount]
    exact .inr ⟨fun h => not_count_iff.mpr ⟨h.1, h.2.1⟩ hcount, _, rfl⟩
  · rw [if_neg hcount]
    obtain ⟨hmin, hmax⟩ := not_count_iff.mp hcount
    by_cases hzero : (cs.all (eq · zero)) = true
    · rw [if_pos hzero]
      refine .inr ⟨fun h => ?_, _, rfl⟩
      obtain ⟨-, -, c, hc, hnonzero⟩ := h
      rw [List.all_eq_true.mp hzero c hc] at hnonzero
      cases hnonzero
    · rw [if_neg hzero]
      obtain ⟨c, hc, hnonzero⟩ := List.all_eq_false.mp (eq_false_of_ne_true hzero)
      exact .inl ⟨⟨hmin, hmax, c, hc, eq_false_of_ne_true hnonzero⟩, cs, rfl, rfl⟩

theorem setPolar_cases (d : Direction V) (angles : List V) :
    (Acceptable .polar angles ∧
      ∃ cs, d.setPolar angles = (⟨cs, .polar⟩, .ok ()) ∧ cs.length = 2) ∨
      (¬ Acceptable .polar angles ∧ ∃ e, d.setPolar angles = (d, .error e)) := by
  unfold setPolar
  split
  · rename_i a
    by_cases hangle : isAngle a = true
    · rw [if_pos hangle]
      refine .inl ⟨⟨rfl, fun b hb => ?_⟩, _, rfl, length_ofAngles (by simp)⟩
      rw [List.mem_singleton.mp hb]
      exact isAngle_iff.mp hangle
    · rw [if_neg hangle]
      exact .inr ⟨fun h => hangle (isAngle_iff.mpr (h.2 a (List.mem_singleton.mpr rfl))), _, rfl⟩
  · rename_i hcount
    refine .inr ⟨fun h => ?_, _, rfl⟩
    obtain ⟨a, ha⟩ := List.length_eq_one_iff.mp h.1
    exact hcount a ha

theorem setSpherical_cases (d : Direction V) (angles : List V) :
    (Acceptable .spherical angles ∧
      ∃ cs, d.setSpherical angles = (⟨cs, .spherical⟩, .ok ()) ∧
        cs.length = angles.length + 1) ∨
      (¬ Acceptable .spherical angles ∧ ∃ e, d.setSpherical angles = (d, .error e)) := by
  unfold setSpherical
  by_cases hcount : angles = [] ∨ directionAxisLimit ≤ angles.length
  · rw [if_pos hcount]
    exact .inr ⟨fun h => not_count_iff.mpr ⟨h.1, h.2.1⟩ hcount, _, rfl⟩
  · rw [if_neg hcount]
    obtain ⟨hmin, hmax⟩ := not_count_iff.mp hcount
    cases hfind : angles.find? (!isAngle ·) with
    | some a =>
      refine .inr ⟨fun h => ?_, _, rfl⟩
      have hangle := isAngle_iff.mpr (h.2.2 a (List.mem_of_find?_eq_some hfind))
      simpa [hangle] using List.find?_some hfind
    | none =>
      refine .inl ⟨⟨hmin, hmax, fun a ha => ?_⟩, _, rfl,
        length_ofAngles (List.length_pos_iff.mp hmin)⟩
      have hangle := List.find?_eq_none.mp hfind a ha
      exact isAngle_iff.mp (by simpa using hangle)

theorem set_cases (d : Direction V) (system : CoordinateSystem) (coordinates : List V) :
    (Acceptable system coordinates ∧ ∃ cs, d.set system coordinates = (⟨cs, system⟩, .ok ()) ∧
        cs.length = componentsMade system coordinates.length) ∨
      (¬ Acceptable system coordinates ∧ ∃ e, d.set system coordinates = (d, .error e)) := by
  cases system with
  | cartesian => exact d.setCartesian_cases coordinates
  | polar => exact d.setPolar_cases coordinates
  | spherical => exact d.setSpherical_cases coordinates

theorem ofCoordinates_eq_ok {system : CoordinateSystem} {coordinates : List V} {d : Direction V}
    (h : ofCoordinates system coordinates = .ok d) :
    default.set system coordinates = (d, .ok ()) := by
  unfold ofCoordinates at h
  split at h
  · rename_i hset
    rw [hset, Except.ok.inj h]
  · cases h

theorem componentsMade_mem {system : CoordinateSystem} {coordinates : List V}
    (h : Acceptable system coordinates) :
    1 ≤ componentsMade system coordinates.length ∧
      componentsMade system coordinates.length ≤ 3 := by
  cases system with
  | cartesian => exact ⟨h.1, h.2.1⟩
  | polar => exact ⟨Nat.le_succ 1, Nat.le_succ 2⟩
  | spherical => exact ⟨Nat.le_add_left .., Nat.succ_le_succ h.2.1⟩

/-! ## Reading -/

theorem polar_iff (d : Direction V) : (∃ a, d.polar = .ok a) ↔ d.axisCount = 2 := by
  rw [axisCount, ← List.length_map (f := widen), polar]
  split
  · rename_i x y hcomponents
    rw [hcomponents]
    exact ⟨fun _ => rfl, fun _ => ⟨_, rfl⟩⟩
  · rename_i x hcomponents
    rw [hcomponents]
    exact ⟨fun ⟨a, h⟩ => (by cases h), fun h => (by cases h)⟩
  · rename_i hpair hsingle
    refine ⟨fun ⟨a, h⟩ => (by cases h), fun h => ?_⟩
    obtain ⟨x, y, hxy⟩ := List.length_eq_two.mp h
    exact absurd hxy (hpair x y)

theorem length_anglesFrom (before rest : List W) :
    (anglesFrom before rest).length = rest.length := by
  induction rest generalizing before with
  | nil => rfl
  | cons c rest ih => rw [anglesFrom, List.length_cons, ih, List.length_cons]

section

omit [Scalar V]

theorem spherical_cases (d : Direction V) :
    (2 ≤ d.axisCount ∧ ∃ angles, d.spherical = .ok angles ∧ angles.length + 1 = d.axisCount) ∨
      (d.axisCount < 2 ∧ ∃ e, d.spherical = .error e) := by
  rw [axisCount, ← List.length_map (f := widen), spherical]
  split
  · rename_i x y rest hcomponents
    rw [hcomponents]
    refine .inl ⟨Nat.le_add_left .., _, rfl, ?_⟩
    rw [List.length_map, List.length_cons, length_anglesFrom]
    rfl
  · rename_i hfew
    refine .inr ⟨?_, _, rfl⟩
    match hcomponents : d.components.map widen with
    | [] => exact Nat.zero_lt_two
    | [x] => exact Nat.one_lt_two
    | x :: y :: rest => exact absurd hcomponents (hfew x y rest)

theorem spherical_iff (d : Direction V) :
    (∃ angles, d.spherical = .ok angles) ↔ 2 ≤ d.axisCount := by
  rcases spherical_cases d with ⟨hcount, angles, hok, -⟩ | ⟨hcount, e, herror⟩
  · exact ⟨fun _ => hcount, fun _ => ⟨angles, hok⟩⟩
  · rw [herror]
    exact ⟨fun ⟨angles, h⟩ => (by cases h), fun h => absurd h (Nat.not_le.mpr hcount)⟩

theorem length_spherical {d : Direction V} {angles : List V} (h : d.spherical = .ok angles) :
    angles.length + 1 = d.axisCount := by
  rcases spherical_cases d with ⟨-, angles', hok, hlength⟩ | ⟨-, e, herror⟩
  · rw [hok] at h
    rwa [← Except.ok.inj h]
  · rw [herror] at h
    cases h

end

theorem length_project (d : Direction V) (magnitude : V) :
    (d.project magnitude).length = d.axisCount := by
  unfold project axisCount
  split
  · rename_i c hcomponents
    rw [hcomponents]
    rfl
  · exact List.length_map ..

/-! ## Histories -/

/-- The number of components is in its bounds, and the readers go by it. -/
structure Counted (d : Direction V) : Prop where
  one_le : 1 ≤ d.axisCount
  le_three : d.axisCount ≤ 3
  polar : (∃ a, d.polar = .ok a) ↔ d.axisCount = 2
  spherical : (∃ angles, d.spherical = .ok angles) ↔ 2 ≤ d.axisCount
  length_spherical {angles : List V} : d.spherical = .ok angles → angles.length + 1 = d.axisCount
  length_project (magnitude : V) : (d.project magnitude).length = d.axisCount

theorem counted_of_mem {d : Direction V} (h : 1 ≤ d.axisCount ∧ d.axisCount ≤ 3) : d.Counted where
  one_le := h.1
  le_three := h.2
  polar := d.polar_iff
  spherical := d.spherical_iff
  length_spherical := length_spherical
  length_project := d.length_project

theorem counted_default : (default : Direction V).Counted :=
  counted_of_mem ⟨Nat.le_refl 1, (by decide : 1 ≤ 3)⟩

theorem Counted.set {d : Direction V} (h : d.Counted) (system : CoordinateSystem)
    (coordinates : List V) : (d.set system coordinates).1.Counted := by
  rcases d.set_cases system coordinates with ⟨haccept, cs, hset, hlength⟩ | ⟨-, e, hset⟩
  · rw [hset]
    refine counted_of_mem ?_
    rw [axisCount, hlength]
    exact componentsMade_mem haccept
  · rw [hset]
    exact h

theorem Counted.setAll {d : Direction V} (h : d.Counted)
    (calls : List (CoordinateSystem × List V)) : (d.setAll calls).Counted := by
  induction calls generalizing d with
  | nil => exact h
  | cons call calls ih => exact ih (h.set call.1 call.2)

/-- After any calls the components and the readers fit each other. A further call is accepted just
when its coordinates are acceptable: then it decides the system and the number of components, and
otherwise it leaves the direction as it was. -/
theorem setAll_counted (calls : List (CoordinateSystem × List V)) (system : CoordinateSystem)
    (coordinates : List V) :
    let d : Direction V := setAll default calls
    d.Counted ∧
    ((d.set system coordinates).2 = .ok () ↔ Acceptable system coordinates) ∧
    (Acceptable system coordinates →
      (d.set system coordinates).1.system = system ∧
      (d.set system coordinates).1.axisCount = componentsMade system coordinates.length) ∧
    (¬ Acceptable system coordinates → (d.set system coordinates).1 = d) := by
  intro d
  refine ⟨counted_default.setAll calls, ?_⟩
  rcases d.set_cases system coordinates with ⟨haccept, cs, hset, hlength⟩ | ⟨hreject, e, hset⟩
  · rw [hset]
    exact ⟨⟨fun _ => haccept, fun _ => rfl⟩, fun _ => ⟨rfl, hlength⟩,
      fun hreject => absurd haccept hreject⟩
  · rw [hset]
    exact ⟨⟨fun h => (by cases h), fun haccept => absurd haccept hreject⟩,
      fun haccept => absurd haccept hreject, fun _ => rfl⟩

end VirtualPad.Direction
