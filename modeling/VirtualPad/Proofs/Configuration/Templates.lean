import VirtualPad.Proofs.Configuration.Overrides

/-!
# Chains of templates

A custom mapper is made from a built-in mapper or from a custom mapper that stands before it, and
that one from another. Mappers are made one after the other, each from a copy of its template, so no
step looks further back than one template. The result is the same as if the whole chain were looked
through for every target (`buildRegistry_resolves`): by induction on the chain, each made mapper
resolves its own chain, and registrations that follow do not touch it.
-/

namespace VirtualPad

open CustomMapper (Target)

namespace CustomMapper

/-- The chain of templates of a custom mapper that stands after some others: the mapper itself, its
template, the template of that and so on, and the mapper that the last one starts from. -/
inductive Chain : List CustomMapper → CustomMapper → List CustomMapper → Mapper → Prop
  | bare {before : List CustomMapper} {m : CustomMapper} (h : m.template = none) :
      Chain before m [m] .blank
  | builtIn {before : List CustomMapper} {m : CustomMapper} {b : Mapper} (hb : b ∈ Layouts.all)
      (h : m.template = some b.name) : Chain before m [m] b
  | custom {front back : List CustomMapper} {m e : CustomMapper} {chain : List CustomMapper}
      {ground : Mapper} (h : m.template = some e.name) (he : Chain front e chain ground) :
      Chain (front ++ e :: back) m (m :: chain) ground

/-- A mapper holds for every target what the nearest text in a chain says, and what the end of the
chain holds where no text is given. -/
def Resolves (chain : List CustomMapper) (ground x : Mapper) : Prop :=
  ∀ t : Target, Given t.parse (chain.findSome? (·.text? t)) (ground.valueOf t) (x.valueOf t)

theorem Resolves.nil (ground : Mapper) : Resolves [] ground ground := fun _ => rfl

theorem Resolves.cons {m : CustomMapper} {chain : List CustomMapper} {ground base x : Mapper}
    (hx : ∀ t : Target, Given t.parse (m.text? t) (base.valueOf t) (x.valueOf t))
    (hbase : Resolves chain ground base) : Resolves (m :: chain) ground x := by
  intro t
  have htext : (m :: chain).findSome? (·.text? t) =
      (m.text? t).or (chain.findSome? (·.text? t)) := by
    rw [List.findSome?_cons]
    cases m.text? t <;> rfl
  rw [htext]
  exact (hx t).layer (hbase t)

/-! ## Making one mapper -/

variable {r r' : Registry} {m : CustomMapper} {ms before : List CustomMapper}

theorem register_eq_ok (h : register r m = .ok r') :
    ∃ base x, r.start? m.template = some base ∧ r.register x = (r', .ok x) ∧ x.name = m.name ∧
      ∀ t : Target, Given t.parse (m.text? t) (base.valueOf t) (x.valueOf t) := by
  unfold register at h
  split at h
  · cases h
  · rename_i b hb
    split at h
    · cases h
    · rename_i r₁ x hr
      obtain rfl : r₁ = r' := Except.ok.inj h
      obtain ⟨base, hbase, hregister⟩ := Registry.registerBlueprint_eq_ok hr
      obtain ⟨-, rfl, -⟩ := Registry.register_eq_ok hregister
      obtain ⟨hname, htemplate⟩ := blueprint_name hb
      exact ⟨base, _, htemplate ▸ hbase, hregister, hname, valueOf_applyTo hb base⟩

/-! ## Making all of them in their order -/

theorem get?_foldlM_of_some (h : ms.foldlM register r = .ok r') {name : String} {y : Mapper}
    (hy : r.mappers.get? name = some y) : r'.mappers.get? name = some y := by
  refine foldlM_invariant (motive := fun r => r.mappers.get? name = some y) ?_ hy h
  intro m _ r r' hr hm
  obtain ⟨-, x, -, hx, -⟩ := register_eq_ok hm
  exact Registry.get?_register_of_some hx hr

theorem known_of_get? (h : ms.foldlM register r = .ok r') {name : String} {y : Mapper}
    (hy : r'.mappers.get? name = some y) :
    r.mappers.get? name = some y ∨ ∃ m ∈ ms, m.name = name := by
  refine foldlM_invariant (motive := fun r' => r'.mappers.get? name = some y →
    r.mappers.get? name = some y ∨ ∃ m ∈ ms, m.name = name) ?_ .inl h hy
  intro m hm r₀ r₁ hr hregister hget
  obtain ⟨-, x, -, hx, hname, -⟩ := register_eq_ok hregister
  rw [Registry.get?_register hx] at hget
  split at hget
  · rename_i he
    exact .inr ⟨m, hm, hname ▸ he⟩
  · exact hr hget

theorem foldlM_append_cons {after : List CustomMapper}
    (h : (before ++ m :: after).foldlM register r = .ok r') :
    ∃ r₀ r₁, before.foldlM register r = .ok r₀ ∧ register r₀ m = .ok r₁ ∧
      after.foldlM register r₁ = .ok r' := by
  rw [List.foldlM_append, Language.bind_eq_ok] at h
  obtain ⟨r₀, hbefore, h⟩ := h
  rw [List.foldlM_cons, Language.bind_eq_ok] at h
  obtain ⟨r₁, hm, hafter⟩ := h
  exact ⟨r₀, r₁, hbefore, hm, hafter⟩

/-- What a template stands for when the mappers before have been made: nothing, a built-in mapper or
one of those before. -/
theorem template_known (h : before.foldlM register .builtIn = .ok r) {template : String}
    {base : Mapper} (hbase : r.mappers.get? template = some base) :
    (base ∈ Layouts.all ∧ base.name = template) ∨ ∃ e ∈ before, e.name = template := by
  rw [← Registry.get?_builtIn_eq_some_iff]
  exact known_of_get? h hbase

/-- Every custom mapper that can be made has a chain: a template stands further to the front, so
following templates ends. -/
theorem exists_chain {base : Mapper} (h : before.foldlM register .builtIn = .ok r)
    (hbase : r.start? m.template = some base) : ∃ chain ground, Chain before m chain ground := by
  induction hlength : before.length using Nat.strongRecOn generalizing before m r base with
  | ind n ih =>
    cases hm : m.template with
    | none => exact ⟨[m], .blank, .bare hm⟩
    | some template =>
      rw [hm] at hbase
      rcases template_known h hbase with ⟨hb, rfl⟩ | ⟨e, he, rfl⟩
      · exact ⟨[m], base, .builtIn hb hm⟩
      · obtain ⟨front, back, rfl⟩ := List.append_of_mem he
        obtain ⟨r₀, r₁, hfront, hr, -⟩ := foldlM_append_cons h
        obtain ⟨base', -, hbase', -⟩ := register_eq_ok hr
        have hlt : front.length < n := by
          rw [← hlength]
          simp
        obtain ⟨chain, ground, hchain⟩ := ih front.length hlt hfront hbase' rfl
        exact ⟨m :: chain, ground, .custom hm hchain⟩

theorem resolves_of_start (hm : register r m = .ok r') {chain : List CustomMapper} {ground : Mapper}
    (hstart : ∀ base, r.start? m.template = some base → Resolves chain ground base) :
    ∃ x, r'.mappers.get? m.name = some x ∧ x.name = m.name ∧ Resolves (m :: chain) ground x := by
  obtain ⟨base, x, hbase, hx, hname, hvalue⟩ := register_eq_ok hm
  refine ⟨x, ?_, hname, .cons hvalue (hstart base hbase)⟩
  rw [Registry.get?_register hx, if_pos hname]

theorem Chain.resolves {chain : List CustomMapper} {ground : Mapper}
    (hchain : Chain before m chain ground) (hbefore : before.foldlM register .builtIn = .ok r)
    (hm : register r m = .ok r') :
    ∃ x, r'.mappers.get? m.name = some x ∧ x.name = m.name ∧ Resolves chain ground x := by
  induction hchain generalizing r r' with
  | bare h =>
    refine resolves_of_start hm fun base hbase => ?_
    rw [h] at hbase
    obtain rfl : Mapper.blank = base := Option.some.inj hbase
    exact .nil _
  | @builtIn _ m b hb h =>
    refine resolves_of_start hm fun base hbase => ?_
    have hget : Registry.builtIn.mappers.get? b.name = some b :=
      Registry.get?_builtIn_eq_some_iff.mpr ⟨hb, rfl⟩
    rw [h, Registry.start?, get?_foldlM_of_some hbefore hget] at hbase
    obtain rfl : b = base := Option.some.inj hbase
    exact .nil _
  | @custom front back m e chain ground h he ih =>
    refine resolves_of_start hm fun base hbase => ?_
    obtain ⟨r₀, r₁, hfront, he, hback⟩ := foldlM_append_cons hbefore
    obtain ⟨y, hy, -, hresolves⟩ := ih hfront he
    rw [h, Registry.start?, get?_foldlM_of_some hback hy] at hbase
    obtain rfl : y = base := Option.some.inj hbase
    exact hresolves

end CustomMapper

namespace Configuration

open CustomMapper (Chain Resolves register)

variable {c : Configuration} {r : Registry}

theorem buildRegistry_eq_ok (h : c.buildRegistry = .ok r) :
    ∃ made, c.customMappers.foldlM register .builtIn = .ok made ∧
      made.setDefault c.mapper.default = (r, .ok ()) ∧
      checkPlayers r c.mapper.players.entries = .ok () := by
  obtain ⟨made, hmade, h⟩ := Language.bind_eq_ok.mp h
  refine ⟨made, hmade, ?_⟩
  split at h
  · cases h
  · rename_i hdefault
    obtain ⟨⟨⟩, hplayers, h⟩ := Language.bind_eq_ok.mp h
    obtain rfl := Except.ok.inj h
    exact ⟨hdefault, hplayers⟩

theorem validate_eq_ok (h : c.validate = .ok ()) :
    c.properties.check = .ok () ∧ checkPlayerNumbers c.mapper.players.keys = .ok () ∧
      ∃ r, c.buildRegistry = .ok r := by
  unfold validate at h
  split at h
  · cases h
  · rename_i hproperties
    obtain ⟨⟨⟩, hnumbers, h⟩ := Language.bind_eq_ok.mp h
    obtain ⟨-, -, h⟩ := Language.bind_eq_ok.mp h
    obtain ⟨r, hr, -⟩ := Language.bind_eq_ok.mp h
    exact ⟨hproperties, hnumbers, r, hr⟩

section

variable {before after : List CustomMapper} {m : CustomMapper}

/-- The registries before and after a custom mapper is made. What is registered by then is still
there in the end. -/
theorem buildRegistry_at (listed : c.customMappers = before ++ m :: after)
    (h : c.buildRegistry = .ok r) :
    ∃ r₀ r₁, before.foldlM register .builtIn = .ok r₀ ∧ register r₀ m = .ok r₁ ∧
      ∀ name y, r₁.mappers.get? name = some y → r.mappers.get? name = some y := by
  obtain ⟨made, hmade, hdefault, -⟩ := buildRegistry_eq_ok h
  obtain ⟨x, -, rfl⟩ := Registry.setDefault_eq_ok hdefault
  rw [listed] at hmade
  obtain ⟨r₀, r₁, hbefore, hm, hafter⟩ := CustomMapper.foldlM_append_cons hmade
  exact ⟨r₀, r₁, hbefore, hm, fun name y hy => CustomMapper.get?_foldlM_of_some hafter hy⟩

theorem buildRegistry_ne_ok (listed : c.customMappers = before ++ m :: after) {template : String}
    (htemplate : m.template = some template) (hbuiltIn : template ∉ Layouts.all.map (·.name))
    (hcustom : template ∉ before.map (·.name)) : c.buildRegistry ≠ .ok r := by
  intro h
  obtain ⟨r₀, r₁, hbefore, hm, -⟩ := buildRegistry_at listed h
  obtain ⟨base, x, hbase, -⟩ := CustomMapper.register_eq_ok hm
  rw [htemplate] at hbase
  rcases CustomMapper.template_known hbefore hbase with ⟨hb, hname⟩ | ⟨e, he, hname⟩
  · exact hbuiltIn (List.mem_map.mpr ⟨base, hb, hname⟩)
  · exact hcustom (List.mem_map.mpr ⟨e, he, hname⟩)

/-- Where a registry can be built, the custom mapper at any place has a chain of templates, and what
is registered under its name holds, for every slot and every motor, what the nearest text in the
chain says, and what the end of the chain holds where no mapper of the chain mentions it. A template
that is neither built in nor the name of a mapper before is refused. -/
theorem buildRegistry_resolves (c : Configuration) {before after : List CustomMapper}
    {m : CustomMapper} (listed : c.customMappers = before ++ m :: after) :
    (∀ r, c.buildRegistry = .ok r →
      (∃ chain ground, Chain before m chain ground) ∧
      ∀ chain ground, Chain before m chain ground →
        ∃ x, r.get? m.name = some x ∧ x.name = m.name ∧ Resolves chain ground x) ∧
    (∀ template, m.template = some template → template ∉ Layouts.all.map (·.name) →
      template ∉ before.map (·.name) →
        (∃ e, c.buildRegistry = .error e) ∧ ∃ e, c.validate = .error e) := by
  refine ⟨fun r hr => ?_, fun template htemplate hbuiltIn hcustom => ?_⟩
  · obtain ⟨r₀, r₁, hbefore, hm, hkeep⟩ := buildRegistry_at listed hr
    obtain ⟨base, x, hbase, hx, hname, -⟩ := CustomMapper.register_eq_ok hm
    refine ⟨CustomMapper.exists_chain hbefore hbase, fun chain ground hchain => ?_⟩
    obtain ⟨y, hy, hresolves⟩ := hchain.resolves hbefore hm
    refine ⟨y, ?_, hresolves⟩
    have hne : m.name ≠ "" := hname ▸ (Registry.register_eq_ok hx).1.1
    rw [Registry.get?, if_neg hne]
    exact hkeep _ _ hy
  · constructor
    · cases hr : c.buildRegistry with
      | ok r => exact absurd hr (buildRegistry_ne_ok listed htemplate hbuiltIn hcustom)
      | error e => exact ⟨e, rfl⟩
    · cases hv : c.validate with
      | ok u =>
        obtain ⟨-, -, r, hr⟩ := validate_eq_ok hv
        exact absurd hr (buildRegistry_ne_ok listed htemplate hbuiltIn hcustom)
      | error e => exact ⟨e, rfl⟩

end

/-- A built-in layout with texts for two slots and a motor. -/
def arcade : CustomMapper :=
  ⟨"Arcade", some "StandardGamepad",
    .ofList [("ButtonA", "Button(5)"), ("ButtonB", "Keyboard(Space)"),
      ("ForceFeedback.LeftMotor", "Disabled")]⟩

/-- The layout with one of the slots set back to nothing. -/
def silent : CustomMapper := ⟨"Silent", some "Arcade", .ofList [("ButtonA", "Null")]⟩

/-- The layout after that with a slot which is not mentioned before. -/
def racing : CustomMapper := ⟨"Racing", some "Silent", .ofList [("TriggerRT", "Axis(Z, Positive)")]⟩

def layered : Configuration where
  customMappers := [arcade, silent, racing]

/-- The first mapper has a template that comes later. -/
def misordered : Configuration where
  customMappers := [silent, arcade, racing]

theorem buildRegistry_resolves_layered :
    (∃ r x, layered.buildRegistry = .ok r ∧ r.get? "Racing" = some x ∧
      x.elements .triggerRight = .axis .z .positive ∧ x.elements .buttonA = .null ∧
      x.elements .buttonB = .key 57 ∧ x.elements .stickLeftX = Layouts.axis .x ∧
      x.actuators .leftMotor = .disabled ∧ x.actuators .rightMotor = .standard) ∧
    ∃ e, misordered.validate = .error e := by
  constructor
  · have hok : layered.buildRegistry.isOk = true := by decide +kernel
    cases hr : layered.buildRegistry with
    | error e =>
      rw [hr] at hok
      cases hok
    | ok r =>
      have harcade : Chain [] arcade [arcade] Layouts.standardGamepad :=
        .builtIn (by simp [Layouts.all]) rfl
      have hsilent : Chain [arcade] silent [silent, arcade] Layouts.standardGamepad :=
        @Chain.custom [] [] _ _ _ _ rfl harcade
      have hracing : Chain [arcade, silent] racing [racing, silent, arcade]
          Layouts.standardGamepad := @Chain.custom [arcade] [] _ _ _ _ rfl hsilent
      have listed : layered.customMappers = [arcade, silent] ++ racing :: [] := rfl
      obtain ⟨x, hx, -, hresolves⟩ := ((buildRegistry_resolves layered listed).1 r hr).2 _ _ hracing
      have hrightTrigger : ElementMapper.parse "Axis(Z, Positive)" = .ok (.axis .z .positive) := by
        with_unfolding_all rfl
      have hnull : ElementMapper.parse "Null" = .ok .null := by with_unfolding_all rfl
      have hspace : ElementMapper.parse "Keyboard(Space)" = .ok (.key 57) := by
        with_unfolding_all rfl
      have hdisabled : ActuatorMode.parse "Disabled" = .ok .disabled := by with_unfolding_all rfl
      refine ⟨r, x, rfl, hx, ?_, ?_, ?_, ?_, ?_, ?_⟩
      · exact Except.ok.inj ((hresolves (.slot .triggerRight)).symm.trans hrightTrigger)
      · exact Except.ok.inj ((hresolves (.slot .buttonA)).symm.trans hnull)
      · exact Except.ok.inj ((hresolves (.slot .buttonB)).symm.trans hspace)
      · exact hresolves (.slot .stickLeftX)
      · exact Except.ok.inj ((hresolves (.actuator .leftMotor)).symm.trans hdisabled)
      · exact hresolves (.actuator .rightMotor)
  · have listed : misordered.customMappers = [] ++ silent :: [arcade, racing] := rfl
    exact ((buildRegistry_resolves misordered listed).2 "Arcade" rfl (by decide) (by decide)).2

end Configuration

end VirtualPad
