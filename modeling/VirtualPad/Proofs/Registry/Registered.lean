import VirtualPad.Registry.Basic

/-!
# Registered mappers

What the built-in registry holds, what a registration changes (`get?_register`), and what a mapper
made from a blueprint is made of: its template, with the overrides laid over it.
-/

namespace VirtualPad

/-- What a mapper without a template starts from: nothing is mapped, and the motors are in their
usual modes. -/
def Mapper.blank : Mapper := ⟨"", .empty, .standard⟩

/-- A mapper with the overrides of a blueprint laid over it. -/
def Blueprint.applyTo (b : Blueprint) (base : Mapper) : Mapper where
  name := b.name
  elements := b.elements.foldl (fun m (s, t) => m.set s t) base.elements
  actuators := b.actuators.foldl (fun m (a, mode) => m.set a mode) base.actuators

namespace Registry

variable {r r' : Registry} {x y : Mapper}

theorem get?_builtIn_eq_some_iff {name : String} :
    builtIn.mappers.get? name = some x ↔ x ∈ Layouts.all ∧ x.name = name := by
  have distinct : ((Layouts.all.map fun m => (m.name, m)).map (·.1)).Nodup := by
    simp only [List.map_map]
    decide
  rw [builtIn, OrderedMap.get?_ofList_eq_some_iff distinct, List.mem_map]
  constructor
  · rintro ⟨m, hm, h⟩
    obtain ⟨rfl, rfl⟩ := Prod.mk.inj h
    exact ⟨hm, rfl⟩
  · rintro ⟨hx, rfl⟩
    exact ⟨x, hx, rfl⟩

/-! ## Registrations -/

/-- A name is free if it is not empty and nothing is registered under it. -/
def Free (r : Registry) (name : String) : Prop := name ≠ "" ∧ r.mappers.get? name = none

theorem checkName_cases (r : Registry) (name : String) :
    (r.Free name ∧ r.checkName name = .ok ()) ∨
      (¬r.Free name ∧ ∃ e, r.checkName name = .error e) := by
  unfold checkName contains OrderedMap.contains Free
  by_cases hname : name = ""
  · exact .inr ⟨fun h => h.1 hname, .emptyName, if_pos hname⟩
  · cases r.mappers.get? name with
    | none => simp [hname]
    | some x => simp [hname]

theorem register_cases (r : Registry) (x : Mapper) :
    (r.Free x.name ∧
      r.register x = ({ r with mappers := r.mappers.insert x.name x }, .ok x)) ∨
      (¬r.Free x.name ∧ ∃ e, r.register x = (r, .error e)) := by
  unfold register
  rcases r.checkName_cases x.name with ⟨hfree, hname⟩ | ⟨hnot, e, hname⟩
  · rw [hname]
    exact .inl ⟨hfree, rfl⟩
  · rw [hname]
    exact .inr ⟨hnot, e, rfl⟩

theorem register_eq_ok (h : r.register x = (r', .ok y)) :
    r.Free x.name ∧ y = x ∧ r' = { r with mappers := r.mappers.insert x.name x } := by
  rcases r.register_cases x with ⟨hfree, hx⟩ | ⟨-, e, hx⟩
  · obtain ⟨hr, hy⟩ := Prod.mk.inj (hx.symm.trans h)
    exact ⟨hfree, (Except.ok.inj hy).symm, hr.symm⟩
  · cases hx.symm.trans h

theorem get?_register (h : r.register x = (r', .ok y)) (name : String) :
    r'.mappers.get? name = if x.name = name then some x else r.mappers.get? name := by
  obtain ⟨-, -, rfl⟩ := register_eq_ok h
  exact OrderedMap.get?_insert ..

theorem get?_register_of_some {z : Mapper} (h : r.register x = (r', .ok z)) {name : String}
    (hy : r.mappers.get? name = some y) : r'.mappers.get? name = some y := by
  have hne : x.name ≠ name := by
    rintro rfl
    rw [(register_eq_ok h).1.2] at hy
    cases hy
  rw [get?_register h, if_neg hne, hy]

theorem setDefault_cases (r : Registry) (name : String) :
    (∃ x, r.mappers.get? name = some x ∧
      r.setDefault name = ({ r with default := x }, .ok ())) ∨
      (r.mappers.get? name = none ∧ ∃ e, r.setDefault name = (r, .error e)) := by
  unfold setDefault
  cases r.mappers.get? name with
  | none => exact .inr ⟨rfl, _, rfl⟩
  | some x => exact .inl ⟨x, rfl, rfl⟩

theorem setDefault_eq_ok {name : String} (h : r.setDefault name = (r', .ok ())) :
    ∃ x, r.mappers.get? name = some x ∧ r' = { r with default := x } := by
  rcases r.setDefault_cases name with ⟨x, hx, hset⟩ | ⟨-, e, hset⟩
  · exact ⟨x, hx, (Prod.mk.inj (h.symm.trans hset)).1⟩
  · cases hset.symm.trans h

/-! ## Blueprints -/

/-- What a mapper with a given template starts from. -/
def start? (r : Registry) : Option String → Option Mapper
  | none => some .blank
  | some template => r.mappers.get? template

theorem build_eq_ok_iff {b : Blueprint} :
    r.build b = .ok x ↔ ∃ base, r.start? b.template = some base ∧ x = b.applyTo base := by
  unfold build base start?
  cases b.template with
  | none => simp [Blueprint.applyTo, Mapper.blank, eq_comm]
  | some template =>
    cases hget : r.mappers.get? template with
    | none => simp [hget]
    | some base => simp [hget, Blueprint.applyTo, eq_comm]

theorem build_cases (r : Registry) (b : Blueprint) :
    (∃ base, r.start? b.template = some base ∧ r.build b = .ok (b.applyTo base)) ∨
      (r.start? b.template = none ∧ ∃ e, r.build b = .error e) := by
  cases hbuild : r.build b with
  | ok x =>
    obtain ⟨base, hbase, rfl⟩ := build_eq_ok_iff.mp hbuild
    exact .inl ⟨base, hbase, rfl⟩
  | error e =>
    refine .inr ⟨?_, e, rfl⟩
    cases hbase : r.start? b.template with
    | none => rfl
    | some base => cases hbuild.symm.trans (build_eq_ok_iff.mpr ⟨base, hbase, rfl⟩)

theorem registerBlueprint_cases (r : Registry) (b : Blueprint) :
    (r.Free b.name ∧ ∃ base, r.start? b.template = some base ∧
      r.registerBlueprint b = r.register (b.applyTo base)) ∨
      ((¬r.Free b.name ∨ r.start? b.template = none) ∧
        ∃ e, r.registerBlueprint b = (r, .error e)) := by
  unfold registerBlueprint
  rcases r.checkName_cases b.name with ⟨hfree, hname⟩ | ⟨hnot, e, hname⟩
  · rw [hname]
    rcases r.build_cases b with ⟨base, hbase, hbuild⟩ | ⟨hbase, e, hbuild⟩
    · rw [hbuild]
      exact .inl ⟨hfree, base, hbase, rfl⟩
    · rw [hbuild]
      exact .inr ⟨.inr hbase, e, rfl⟩
  · rw [hname]
    exact .inr ⟨.inl hnot, e, rfl⟩

theorem registerBlueprint_eq_ok {b : Blueprint} (h : r.registerBlueprint b = (r', .ok x)) :
    ∃ base, r.start? b.template = some base ∧ r.register (b.applyTo base) = (r', .ok x) := by
  rcases r.registerBlueprint_cases b with ⟨-, base, hbase, hregister⟩ | ⟨-, e, hregister⟩
  · exact ⟨base, hbase, hregister ▸ h⟩
  · cases hregister.symm.trans h

end Registry

end VirtualPad
