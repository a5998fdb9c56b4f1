import VirtualPad.Configuration.Loaded
import VirtualPad.Proofs.Document.Written

/-!
# Configurations that are saved

What is left out of a document is what its reader puts there by itself: no mappers of single
players, no custom mappers, no template. So a configuration is recovered from its document, whatever
its texts say, and a valid one from the file that it was saved to
(`Configuration.ofFile_toText`).
-/

namespace VirtualPad

open Decode (Fills Recovers recovers_bool recovers_int32 recovers_listOf
  recovers_mapOf recovers_optionalText recovers_text recovers_uint8 recovers_uint32)

namespace MapperSelection

theorem recovers_ofNode (m : MapperSelection) : Recovers ofNode m.toDocument m := by
  obtain ⟨default, players⟩ := m
  have hdefault := recovers_text default
  rw [toDocument]
  split
  · rename_i hempty
    obtain rfl := OrderedMap.eq_empty_of_isEmpty hempty
    refine Fills.recovers_record ["default"] ?_ rfl
    exact .field rfl rfl hdefault (.done _)
  · have hplayers := recovers_mapOf recovers_uint8 recovers_text players
    refine Fills.recovers_record ["players", "default"] ?_ rfl
    exact .field rfl rfl hdefault (.field rfl rfl hplayers (.done _))

end MapperSelection

namespace CustomMapper

theorem recovers_ofNode (m : CustomMapper) : Recovers ofNode m.toDocument m := by
  obtain ⟨name, template, elements⟩ := m
  have hname := recovers_text name
  have helements := recovers_mapOf recovers_text recovers_text elements
  cases template with
  | none =>
    refine Fills.recovers_record ["elements", "name"] ?_ rfl
    exact .field rfl rfl hname (.field rfl rfl helements (.done _))
  | some template =>
    refine Fills.recovers_record ["elements", "template", "name"] ?_ rfl
    exact .field rfl rfl hname
      (.field rfl rfl (recovers_optionalText template) (.field rfl rfl helements (.done _)))

end CustomMapper

theorem ControllerProperties.recovers_ofNode (p : ControllerProperties) :
    Recovers ofNode p.toDocument p := by
  refine Fills.recovers_record ["transforms_enabled", "force_feedback_gain", "range_max",
    "range_min", "saturation", "deadzone"] ?_ rfl
  exact .field rfl rfl (recovers_uint32 p.deadzone) <|
    .field rfl rfl (recovers_uint32 p.saturation) <|
    .field rfl rfl (recovers_int32 p.rangeMin) <|
    .field rfl rfl (recovers_int32 p.rangeMax) <|
    .field rfl rfl (recovers_uint32 p.gain) <|
    .field rfl rfl (recovers_bool p.enabled) <| .done _

namespace Configuration

/-- Every configuration is recovered from its document, also one that is not valid. -/
theorem recovers_ofNode (c : Configuration) : Recovers ofNode c.toDocument c := by
  obtain ⟨mapper, customMappers, properties⟩ := c
  have hmapper := mapper.recovers_ofNode
  have hproperties := properties.recovers_ofNode
  rw [toDocument]
  split
  · rename_i hnil
    obtain rfl : customMappers = [] := hnil
    refine Fills.recovers_record ["properties", "mapper"] ?_ rfl
    exact .field rfl rfl hmapper (.field rfl rfl hproperties (.done _))
  · have hmappers := recovers_listOf CustomMapper.recovers_ofNode customMappers
    refine Fills.recovers_record ["properties", "custom_mappers", "mapper"] ?_ rfl
    exact .field rfl rfl hmapper (.field rfl rfl hmappers (.field rfl rfl hproperties (.done _)))

theorem ofText_toText {y : Yaml.Codec} {c : Configuration} (hvalid : c.validate = .ok ())
    (hyaml : y.ReadsBack c.toDocument) : ofText y (c.toText y) = .ok c := by
  have hread : y.decode ofNode (c.toText y) = .ok c :=
    Yaml.Codec.decode_print hyaml c.recovers_ofNode
  delta ofText
  rw [hread]
  dsimp only
  rw [hvalid]

/-- In whatever way documents are written and read, a valid configuration is loaded again from the
file that it was saved to, if its document is read back. -/
theorem ofFile_toText (y : Yaml.Codec) {c : Configuration} (hvalid : c.validate = .ok ())
    (hyaml : y.ReadsBack c.toDocument) (path : String) :
    ofFile y path (.ok (c.toText y)) = .ok c := by
  rw [ofFile, ofText_toText hvalid hyaml]

/-- Texts that could be taken for something else are in quotes, and a mapper without a template has
none when it is loaded. -/
theorem ofFile_toText_quoted :
    let c : Configuration :=
      { mapper := { default := "a: b", players := .ofList [(2, "null")] }
        customMappers := [
          { name := "null" },
          { name := "a: b", template := some "null", elements := .ofList [("ButtonA", "Null")] }]
        properties := { deadzone := 1500, rangeMin := -100 } }
    (c.validate = .ok () ∧ Yaml.codec.ReadsBack c.toDocument) ∧
      ofFile Yaml.codec "saved.yaml" (.ok (c.toText Yaml.codec)) = .ok c := by
  intro c
  have hvalid : c.validate = .ok () := by decide +kernel
  have hread : (Yaml.read (Yaml.print c.toDocument)).broken = false ∧
      (Yaml.read (Yaml.print c.toDocument)).crowded = false ∧
      (Yaml.read (Yaml.print c.toDocument)).root.shows c.toDocument := by
    -- What is read are the printed characters, without a text in between.
    have hchars : (Yaml.print c.toDocument).toList = _ := Yaml.toList_print _ _
    rw [Yaml.read, Yaml.Lexed.ofText_of_toList hchars]
    decide +kernel
  have hyaml : Yaml.codec.ReadsBack c.toDocument := ⟨hread.1, hread.2.1, hread.2.2⟩
  exact ⟨⟨hvalid, hyaml⟩, ofFile_toText Yaml.codec hvalid hyaml _⟩

end Configuration

end VirtualPad
