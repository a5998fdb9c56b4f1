import VirtualPad.Configuration.Check
import VirtualPad.Proofs.Registry.Registered

/-!
# Overrides of a custom mapper

A text in a custom mapper belongs to a slot or to a motor, whose written name it stands under. The
two are handled alike, so both are targets here: what a mapper holds for a target, what a text says
about it, and what is left of it when a blueprint is laid over a mapper (`valueOf_applyTo`).
-/

namespace VirtualPad

open CustomMapper (Target)

theorem foldlM_invariant {ε α β : Type} {f : β → α → Except ε β} {motive : β → Prop} {l : List α}
    (step : ∀ a ∈ l, ∀ {b b'}, motive b → f b a = .ok b' → motive b') {b b' : β} (hb : motive b)
    (h : l.foldlM f b = .ok b') : motive b' := by
  induction l generalizing b with
  | nil =>
    obtain rfl : b = b' := Except.ok.inj h
    exact hb
  | cons a l ih =>
    rw [List.foldlM_cons, Language.bind_eq_ok] at h
    obtain ⟨middle, hstep, h⟩ := h
    refine ih (fun a ha => step a (List.mem_cons_of_mem _ ha)) ?_ h
    exact step a List.mem_cons_self hb hstep

namespace CustomMapper.Target

/-- What a mapper holds for a target. -/
abbrev Value : Target → Type
  | .slot _ => ElementMapper
  | .actuator _ => ActuatorMode

def name : Target → String
  | .slot s => s.name
  | .actuator a => "ForceFeedback." ++ a.name

def parse : (t : Target) → String → Except Language.ParseError t.Value
  | .slot _ => ElementMapper.parse
  | .actuator _ => ActuatorMode.parse

end CustomMapper.Target

/-! ## Targets by their names -/

namespace CustomMapper

theorem target_name (t : Target) : target t.name = .ok t := by
  rcases t with a | s
  · cases a <;> rfl
  · cases s <;> rfl

theorem name_of_target {element : String} {t : Target} (h : target element = .ok t) :
    element = t.name := by
  unfold target at h
  split at h
  · rename_i hmark
    obtain ⟨rest, hrest⟩ := List.isPrefixOf_iff_prefix.mp hmark
    split at h
    · rename_i a ha
      obtain rfl : Target.actuator a = t := Except.ok.inj h
      rw [← hrest, List.drop_left, Actuator.ofName?_eq_some_iff] at ha
      have htext : (String.ofList rest).toList = rest := String.toList_ofList
      rw [Target.name, ← ha, ← String.toList_inj, String.toList_append, htext]
      exact hrest.symm
    · cases h
  · split at h
    · rename_i s hs
      obtain rfl : Target.slot s = t := Except.ok.inj h
      exact Slot.ofName?_eq_some_iff.mp hs
    · cases h

theorem target_eq_ok_iff {element : String} {t : Target} :
    target element = .ok t ↔ element = t.name := by
  constructor
  · exact name_of_target
  · rintro rfl
    exact target_name t

theorem Target.name_inj {t u : Target} (h : t.name = u.name) : t = u := by
  have := target_name t
  rw [h, target_name u] at this
  exact (Except.ok.inj this).symm

/-- The text that a custom mapper gives for a target. -/
def text? (m : CustomMapper) (t : Target) : Option String := m.elements.get? t.name

end CustomMapper

/-! ## Mappers as maps from targets -/

namespace Mapper

def valueOf (x : Mapper) : (t : Target) → t.Value
  | .slot s => x.elements s
  | .actuator a => x.actuators a

def put (x : Mapper) : (t : Target) → t.Value → Mapper
  | .slot s, v => { x with elements := x.elements.set s v }
  | .actuator a, v => { x with actuators := x.actuators.set a v }

theorem valueOf_put_self (x : Mapper) (t : Target) (v : t.Value) : (x.put t v).valueOf t = v := by
  cases t <;> simp [put, valueOf, ElementMap.set, ActuatorMap.set]

theorem valueOf_put_of_ne (x : Mapper) {t u : Target} (v : t.Value) (h : u ≠ t) :
    (x.put t v).valueOf u = x.valueOf u := by
  cases t <;> cases u <;> simp_all [put, valueOf, ElementMap.set, ActuatorMap.set]

end Mapper

namespace Blueprint

def push (b : Blueprint) : (t : Target) → t.Value → Blueprint
  | .slot s, v => { b with elements := b.elements ++ [(s, v)] }
  | .actuator a, v => { b with actuators := b.actuators ++ [(a, v)] }

theorem applyTo_push (b : Blueprint) (t : Target) (v : t.Value) (base : Mapper) :
    (b.push t v).applyTo base = (b.applyTo base).put t v := by
  cases t <;> simp [push, applyTo, Mapper.put]

theorem name_push (b : Blueprint) (t : Target) (v : t.Value) : (b.push t v).name = b.name := by
  cases t <;> rfl

theorem template_push (b : Blueprint) (t : Target) (v : t.Value) :
    (b.push t v).template = b.template := by
  cases t <;> rfl

end Blueprint

/-! ## What a text decides -/

/-- A value is what the text says, or a default where there is no text. -/
def Given {α : Type} (parse : String → Except Language.ParseError α) (text? : Option String)
    (default value : α) : Prop :=
  match text? with
  | some text => parse text = .ok value
  | none => value = default

/-- A default that is itself given by a text: the upper text counts, and the lower one after it. -/
theorem Given.layer {α : Type} {parse : String → Except Language.ParseError α}
    {upper lower : Option String} {default middle value : α} (hu : Given parse upper middle value)
    (hl : Given parse lower default middle) : Given parse (upper.or lower) default value := by
  cases upper with
  | some text => exact hu
  | none =>
    obtain rfl : value = middle := hu
    exact hl

namespace CustomMapper

theorem inValue_eq_ok {α : Type} {element : String} {x : Except Language.ParseError α} {a : α}
    (h : inValue element x = .ok a) : x = .ok a := by
  cases x with
  | ok b => exact congrArg _ (Except.ok.inj h)
  | error e => cases h

theorem addOverride_eq_ok {b b' : Blueprint} {element text : String}
    (h : addOverride b element text = .ok b') :
    ∃ (t : Target) (v : t.Value), element = t.name ∧ t.parse text = .ok v ∧ b' = b.push t v := by
  obtain ⟨t, ht, h⟩ := Language.bind_eq_ok.mp h
  rw [target_eq_ok_iff] at ht
  rcases t with a | s
  · obtain ⟨mode, hmode, h⟩ := Language.bind_eq_ok.mp h
    exact ⟨.actuator a, mode, ht, inValue_eq_ok hmode, (Except.ok.inj h).symm⟩
  · obtain ⟨v, hv, h⟩ := Language.bind_eq_ok.mp h
    exact ⟨.slot s, v, ht, inValue_eq_ok hv, (Except.ok.inj h).symm⟩

theorem valueOf_addOverride {b b' : Blueprint} {element text : String}
    (h : addOverride b element text = .ok b') (base : Mapper) (t : Target) :
    Given t.parse (if element = t.name then some text else none) ((b.applyTo base).valueOf t)
      ((b'.applyTo base).valueOf t) := by
  obtain ⟨u, v, rfl, hv, rfl⟩ := addOverride_eq_ok h
  rw [Blueprint.applyTo_push]
  by_cases hu : u = t
  · subst hu
    rw [if_pos rfl, Mapper.valueOf_put_self]
    exact hv
  · rw [if_neg fun hname => hu (Target.name_inj hname)]
    exact Mapper.valueOf_put_of_ne _ v (Ne.symm hu)

/-- Of the texts in a list of entries the one under the name of a target decides about it. The keys
grow, so there is no second one that could take its place. -/
theorem valueOf_foldlM {entries : List (String × String)}
    (ordered : entries.Pairwise fun a b => a.1 < b.1) {b b' : Blueprint}
    (h : entries.foldlM (fun b (element, text) => addOverride b element text) b = .ok b')
    (base : Mapper) (t : Target) :
    Given t.parse (OrderedMap.find? t.name entries) ((b.applyTo base).valueOf t)
      ((b'.applyTo base).valueOf t) := by
  induction entries generalizing b with
  | nil =>
    obtain rfl : b = b' := Except.ok.inj h
    exact rfl
  | cons entry rest ih =>
    obtain ⟨element, text⟩ := entry
    obtain ⟨hfirst, hrest⟩ := List.pairwise_cons.mp ordered
    rw [List.foldlM_cons, Language.bind_eq_ok] at h
    obtain ⟨middle, hadd, h⟩ := h
    have hupper := ih hrest h
    have hlower := valueOf_addOverride hadd base t
    have htext : OrderedMap.find? t.name ((element, text) :: rest) =
        (OrderedMap.find? t.name rest).or (if element = t.name then some text else none) := by
      by_cases he : element = t.name
      · have hnone : OrderedMap.find? t.name rest = none :=
          OrderedMap.find?_eq_none_of_lt (he ▸ hfirst)
        simp [OrderedMap.find?, he, hnone]
      · simp [OrderedMap.find?, he]
    rw [htext]
    exact hupper.layer hlower

/-- A blueprint laid over a mapper: a target with a text has what the text says, and any other keeps
what it has. -/
theorem valueOf_applyTo {m : CustomMapper} {b : Blueprint} (h : m.blueprint = .ok b) (base : Mapper)
    (t : Target) : Given t.parse (m.text? t) (base.valueOf t) ((b.applyTo base).valueOf t) := by
  have hstart : (Blueprint.applyTo ⟨m.name, m.template, [], []⟩ base).valueOf t = base.valueOf t := by
    cases t <;> rfl
  rw [← hstart]
  exact valueOf_foldlM m.elements.ordered h base t

theorem blueprint_name {m : CustomMapper} {b : Blueprint} (h : m.blueprint = .ok b) :
    b.name = m.name ∧ b.template = m.template := by
  refine foldlM_invariant (motive := fun b => b.name = m.name ∧ b.template = m.template) ?_
    ⟨rfl, rfl⟩ h
  intro entry _ b b' hb hadd
  obtain ⟨t, v, -, -, rfl⟩ := addOverride_eq_ok hadd
  rwa [b.name_push, b.template_push]

end CustomMapper

end VirtualPad
