import VirtualPad.Proofs.Registry.Registered

/-!
# Runs of a registry

A program registers mappers, builds them from blueprints and chooses the default, in any order, and
any of these calls may be refused. What a call does is one of four things (`Performs`): nothing, as
it is refused; nothing, as a mapper is only built; a mapper is stored under a name that was free; or
another one of the mappers becomes the default. None of them takes a mapper away from its name or
lets two names share one, so a name stands for the same mapper for good (`run_lookup`).
-/

namespace VirtualPad

/-- What a program can ask of a registry. -/
inductive RegistryCall where
  | register (m : Mapper)
  | registerBlueprint (b : Blueprint)
  | build (b : Blueprint)
  | setDefault (name : String)

/-- What a registry answers to a call that it does not refuse. -/
inductive RegistryAnswer where
  | registered (m : Mapper)
  | built (m : Mapper)
  | chosen

/-- The mapper that was registered, if the call was a registration and was not refused. -/
def RegistryAnswer.registered? : Except RegistryError RegistryAnswer → Option Mapper
  | .ok (.registered m) => some m
  | _ => none

namespace Registry

def perform (r : Registry) : RegistryCall → Registry × Except RegistryError RegistryAnswer
  | .register m => (r.register m).map id (·.map .registered)
  | .registerBlueprint b => (r.registerBlueprint b).map id (·.map .registered)
  | .build b => (r, (r.build b).map .built)
  | .setDefault name => (r.setDefault name).map id (·.map fun _ => .chosen)

def run (r : Registry) (calls : List RegistryCall) : Registry :=
  calls.foldl (fun r call => (r.perform call).1) r

/-- The mappers that a run registers, in their order. -/
def registrations (r : Registry) : List RegistryCall → List Mapper
  | [] => []
  | call :: calls =>
    (RegistryAnswer.registered? (r.perform call).2).toList ++
      (r.perform call).1.registrations calls

/-- Why a call is refused: it gives an empty name or a name that is taken, or it asks for a mapper
that is not registered. -/
def Refuses (r : Registry) : RegistryCall → Prop
  | .register m => m.name = "" ∨ r.contains m.name = true
  | .registerBlueprint b =>
    b.name = "" ∨ r.contains b.name = true ∨ ∃ t, b.template = some t ∧ r.contains t = false
  | .build b => ∃ t, b.template = some t ∧ r.contains t = false
  | .setDefault name => r.contains name = false

/-! ## One call -/

variable {r r' : Registry} {x : Mapper} {name : String}

theorem contains_eq_true_iff : r.contains name = true ↔ ∃ x, r.mappers.get? name = some x := by
  rw [contains, OrderedMap.contains, Option.isSome_iff_exists]

theorem contains_eq_false_iff : r.contains name = false ↔ r.mappers.get? name = none := by
  rw [contains, OrderedMap.contains, Option.isSome_eq_false_iff, Option.isNone_iff_eq_none]

theorem free_iff : r.Free name ↔ name ≠ "" ∧ r.contains name = false := by
  rw [Free, contains_eq_false_iff]

theorem not_free_iff : ¬r.Free name ↔ name = "" ∨ r.contains name = true := by
  rw [free_iff, Classical.not_and_iff_not_or_not, Classical.not_not, Bool.not_eq_false]

theorem start?_eq_none_iff {template : Option String} :
    r.start? template = none ↔ ∃ t, template = some t ∧ r.contains t = false := by
  cases template with
  | none => simp [start?]
  | some t => simp [start?, contains_eq_false_iff]

/-- What a call leads to. -/
inductive Performs (r : Registry) : Registry × Except RegistryError RegistryAnswer → Prop where
  | refuses (e : RegistryError) : Performs r (r, .error e)
  | builds (x : Mapper) : Performs r (r, .ok (.built x))
  | registers {x : Mapper} {r' : Registry} (h : r.register x = (r', .ok x)) :
    Performs r (r', .ok (.registered x))
  | chooses {name : String} {r' : Registry} (h : r.setDefault name = (r', .ok ())) :
    Performs r (r', .ok .chosen)

theorem perform_cases (r : Registry) (call : RegistryCall) :
    (r.Refuses call ∧ ∃ e, r.perform call = (r, .error e)) ∨
      (¬r.Refuses call ∧ r.Performs (r.perform call) ∧ ∃ r' a, r.perform call = (r', .ok a)) := by
  cases call with
  | register m =>
    rw [perform]
    rcases r.register_cases m with ⟨hfree, hm⟩ | ⟨hnot, e, hm⟩
    · rw [free_iff] at hfree
      rw [hm]
      exact .inr ⟨by simp [Refuses, hfree], .registers hm, _, _, rfl⟩
    · rw [hm]
      exact .inl ⟨not_free_iff.mp hnot, e, rfl⟩
  | registerBlueprint b =>
    rw [perform]
    rcases r.registerBlueprint_cases b with ⟨hfree, base, hbase, hb⟩ | ⟨hnot, e, hb⟩
    · rcases r.register_cases (b.applyTo base) with ⟨-, hm⟩ | ⟨hnot, -⟩
      · have hstart : ¬∃ t, b.template = some t ∧ r.contains t = false := by
          rw [← start?_eq_none_iff, hbase]
          exact Option.some_ne_none base
        rw [free_iff] at hfree
        rw [hb, hm]
        refine .inr ⟨?_, .registers hm, _, _, rfl⟩
        rintro (hname | hname | ht)
        · exact hfree.1 hname
        · rw [hfree.2] at hname
          cases hname
        · exact hstart ht
      · exact absurd hfree hnot
    · rw [hb]
      rw [not_free_iff, start?_eq_none_iff, or_assoc] at hnot
      exact .inl ⟨hnot, e, rfl⟩
  | build b =>
    rw [perform, Refuses, ← start?_eq_none_iff]
    rcases r.build_cases b with ⟨base, hbase, hb⟩ | ⟨hbase, e, hb⟩
    · rw [hb, hbase]
      exact .inr ⟨Option.some_ne_none base, .builds _, _, _, rfl⟩
    · rw [hb]
      exact .inl ⟨hbase, e, rfl⟩
  | setDefault name =>
    rw [perform, Refuses, contains_eq_false_iff]
    rcases r.setDefault_cases name with ⟨x, hx, hset⟩ | ⟨hx, e, hset⟩
    · rw [hset, hx]
      exact .inr ⟨Option.some_ne_none x, .chooses hset, _, _, rfl⟩
    · rw [hset]
      exact .inl ⟨hx, e, rfl⟩

theorem performs (r : Registry) (call : RegistryCall) : r.Performs (r.perform call) := by
  rcases r.perform_cases call with ⟨-, e, h⟩ | ⟨-, h, -⟩
  · rw [h]
    exact .refuses e
  · exact h

theorem refused_iff (r : Registry) (call : RegistryCall) :
    (∃ e, (r.perform call).2 = .error e) ↔ r.Refuses call := by
  rcases r.perform_cases call with ⟨hrefuses, e, h⟩ | ⟨hnot, -, r', a, h⟩
  · exact iff_of_true ⟨e, by rw [h]⟩ hrefuses
  · rw [h]
    exact iff_of_false (fun ⟨e, he⟩ => by cases he) hnot

variable {outcome : Registry × Except RegistryError RegistryAnswer}

/-- What is left after a refusal is what was there before. -/
theorem Performs.eq_of_error (h : r.Performs outcome) {e : RegistryError}
    (he : outcome.2 = .error e) : outcome.1 = r := by
  cases h with
  | refuses e => rfl
  | builds x => rfl
  | registers hx => cases he
  | chooses hset => cases he

/-! ## Runs -/

/-- Mappers stand under their names, and the default is one of them. -/
structure Consistent (r : Registry) : Prop where
  named {name : String} {x : Mapper} (h : r.mappers.get? name = some x) : name ≠ "" ∧ x.name = name
  default_registered : r.mappers.get? r.default.name = some r.default
  null_eq : r.null = Layouts.null

theorem consistent_builtIn : builtIn.Consistent where
  named h := by
    obtain ⟨hx, rfl⟩ := get?_builtIn_eq_some_iff.mp h
    have hnames : ∀ x ∈ Layouts.all, x.name ≠ "" := by decide
    exact ⟨hnames _ hx, rfl⟩
  default_registered := get?_builtIn_eq_some_iff.mpr ⟨List.mem_cons_self, rfl⟩
  null_eq := rfl

theorem Consistent.register (h : r.Consistent) (hx : r.register x = (r', .ok x)) :
    r'.Consistent where
  named {name y} hy := by
    rw [get?_register hx] at hy
    split at hy
    · rename_i hname
      obtain rfl := Option.some.inj hy
      exact ⟨hname ▸ (register_eq_ok hx).1.1, hname⟩
    · exact h.named hy
  default_registered := by
    obtain ⟨-, -, rfl⟩ := register_eq_ok hx
    exact get?_register_of_some hx h.default_registered
  null_eq := by
    obtain ⟨-, -, rfl⟩ := register_eq_ok hx
    exact h.null_eq

theorem Consistent.setDefault (h : r.Consistent) (hset : r.setDefault name = (r', .ok ())) :
    r'.Consistent := by
  obtain ⟨x, hx, rfl⟩ := setDefault_eq_ok hset
  refine ⟨h.named, ?_, h.null_eq⟩
  show r.mappers.get? x.name = some x
  rw [(h.named hx).2, hx]

theorem Consistent.performs (h : r.Consistent) (hp : r.Performs outcome) :
    outcome.1.Consistent := by
  cases hp with
  | refuses e => exact h
  | builds x => exact h
  | registers hx => exact h.register hx
  | chooses hset => exact h.setDefault hset

theorem Performs.get?_of_some (h : r.Performs outcome) (hx : r.mappers.get? name = some x) :
    outcome.1.mappers.get? name = some x := by
  cases h with
  | refuses e => exact hx
  | builds y => exact hx
  | registers hy => exact get?_register_of_some hy hx
  | chooses hset =>
    obtain ⟨y, -, rfl⟩ := setDefault_eq_ok hset
    exact hx

theorem Performs.size_eq (h : r.Performs outcome) :
    outcome.1.size = r.size + (RegistryAnswer.registered? outcome.2).toList.length := by
  cases h with
  | refuses e => rfl
  | builds y => rfl
  | registers hx =>
    obtain ⟨⟨-, hnew⟩, -, rfl⟩ := register_eq_ok hx
    exact OrderedMap.size_insert_of_get?_eq_none hnew _
  | chooses hset =>
    obtain ⟨y, -, rfl⟩ := setDefault_eq_ok hset
    rfl

theorem Performs.get?_registered (h : r.Performs outcome)
    (hx : RegistryAnswer.registered? outcome.2 = some x) :
    outcome.1.mappers.get? x.name = some x := by
  cases h with
  | refuses e => cases hx
  | builds y => cases hx
  | registers hy =>
    obtain rfl := Option.some.inj hx
    rw [get?_register hy, if_pos rfl]
  | chooses hset => cases hx

theorem Consistent.run (h : r.Consistent) (calls : List RegistryCall) : (r.run calls).Consistent := by
  induction calls generalizing r with
  | nil => exact h
  | cons call calls ih => exact ih (h.performs (r.performs call))

theorem get?_run_of_some (hx : r.mappers.get? name = some x) (calls : List RegistryCall) :
    (r.run calls).mappers.get? name = some x := by
  induction calls generalizing r with
  | nil => exact hx
  | cons call calls ih => exact ih ((r.performs call).get?_of_some hx)

theorem size_run (r : Registry) (calls : List RegistryCall) :
    (r.run calls).size = r.size + (r.registrations calls).length := by
  induction calls generalizing r with
  | nil => rfl
  | cons call calls ih =>
    show ((r.perform call).1.run calls).size = _
    rw [ih, (r.performs call).size_eq, registrations, List.length_append, Nat.add_assoc]

theorem get?_of_mem_registrations {calls : List RegistryCall} (hx : x ∈ r.registrations calls) :
    (r.run calls).mappers.get? x.name = some x := by
  induction calls generalizing r with
  | nil => cases hx
  | cons call calls ih =>
    rcases List.mem_append.mp hx with hx | hx
    · exact get?_run_of_some ((r.performs call).get?_registered (Option.mem_toList.mp hx)) calls
    · exact ih hx

theorem Consistent.get?_eq_some (h : r.Consistent) (hx : r.mappers.get? name = some x) :
    r.get? name = some x := by
  rw [get?, if_neg (h.named hx).1, hx]

/-- After any calls, some of which may have been refused, every mapper stands under its name, which
is not empty, and a name will stand for the same mapper after any further calls. What is registered
are the built-in mappers and those that the calls have registered. The default is one of them and is
what the empty name stands for. A call is refused only for a bad name, and changes nothing then. -/
theorem run_lookup (calls : List RegistryCall) :
    let r := builtIn.run calls
    (∀ name x, r.mappers.get? name = some x →
      name ≠ "" ∧ x.name = name ∧ ∀ more, (r.run more).get? name = some x) ∧
    (∀ x ∈ Layouts.all ++ builtIn.registrations calls, r.mappers.get? x.name = some x) ∧
    r.size = 6 + (builtIn.registrations calls).length ∧
    r.mappers.get? r.default.name = some r.default ∧ r.get? "" = some r.default ∧
    r.null = Layouts.null ∧
    ∀ call, ((∃ e, (r.perform call).2 = .error e) ↔ r.Refuses call) ∧
      ∀ e, (r.perform call).2 = .error e → (r.perform call).1 = r := by
  intro r
  have hr : r.Consistent := consistent_builtIn.run calls
  refine ⟨?_, ?_, ?_, hr.default_registered, rfl, hr.null_eq, ?_⟩
  · intro name x hx
    obtain ⟨hne, hname⟩ := hr.named hx
    exact ⟨hne, hname, fun more => (hr.run more).get?_eq_some (get?_run_of_some hx more)⟩
  · intro x hx
    rcases List.mem_append.mp hx with hx | hx
    · exact get?_run_of_some (get?_builtIn_eq_some_iff.mpr ⟨hx, rfl⟩) calls
    · exact get?_of_mem_registrations hx
  · have hsize : builtIn.size = 6 := by decide +kernel
    rw [size_run, hsize]
  · intro call
    exact ⟨r.refused_iff call, fun e he => (r.performs call).eq_of_error he⟩

/-- A mapper is registered and made the default, among calls that are refused, and keeps its name
after the default has changed. -/
theorem run_lookup_refusals :
    let calls : List RegistryCall :=
      [.setDefault "Custom", .registerBlueprint ⟨"Custom", some "Null", [(.buttonA, .pov .up)], []⟩,
        .register ⟨"Custom", .empty, .standard⟩, .setDefault "Custom",
        .build ⟨"Other", some "Missing", [], []⟩, .register ⟨"", .empty, .standard⟩]
    let more : List RegistryCall := [.setDefault "Null", .registerBlueprint ⟨"Other", none, [], []⟩]
    let r := builtIn.run calls
    ∃ x, r.mappers.get? "Custom" = some x ∧ x.name = "Custom" ∧ x.capabilities.hasPov = true ∧
      r.size = 7 ∧ r.default.name = "Custom" ∧ (r.run more).default.name = "Null" ∧
      (r.run more).get? "Custom" = some x ∧
      (∃ e, (r.perform (.register x)).2 = .error e) ∧ (r.perform (.register x)).1 = r := by
  intro calls more r
  obtain ⟨hnamed, -, -, -, -, -, hrefused⟩ := run_lookup calls
  have hcontains : r.contains "Custom" = true := by decide +kernel
  have hpov : (r.mappers.get? "Custom").map (·.capabilities.hasPov) = some true := by decide +kernel
  obtain ⟨x, hx⟩ := contains_eq_true_iff.mp hcontains
  rw [hx] at hpov
  obtain ⟨-, hname, hlater⟩ := hnamed "Custom" x hx
  have htaken : r.Refuses (.register x) := .inr (hname ▸ hcontains)
  obtain ⟨e, he⟩ := (hrefused (.register x)).1.mpr htaken
  refine ⟨x, hx, hname, Option.some.inj hpov, ?_, ?_, ?_, hlater more, ⟨e, he⟩,
    (hrefused (.register x)).2 e he⟩
  · decide +kernel
  · decide +kernel
  · decide +kernel

end Registry

end VirtualPad
