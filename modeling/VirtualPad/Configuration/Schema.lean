import VirtualPad.Configuration.Codec

/-!
# The schema of a configuration

A description of the configuration file as a JSON schema.
-/

namespace VirtualPad.Schema

/-- A reference to a named description. -/
def reference (name : String) : Document := .object [("$ref", .text ("#/definitions/" ++ name))]

/-- A field with a default that is described elsewhere. -/
def referring (default : Document) (name : String) : Document :=
  .object [("default", default), ("allOf", .list [reference name])]

def type (name : String) : String × Document := ("type", .text name)

def description (text : String) : String × Document := ("description", .text text)

/-- A map whose values are texts. -/
def textMap : List (String × Document) :=
  [type "object", ("additionalProperties", .object [type "string"])]

def unsignedField (default : Nat) : Document :=
  .object [("default", .nat default), type "integer", ("format", .text "uint32"),
    ("minimum", .decimal "0.0")]

def signedField (default : Int) : Document :=
  .object [("default", .int default), type "integer", ("format", .text "int32")]

def record (about : String) (required : List String) (fields : List (String × Document)) :
    List (String × Document) :=
  [description about, type "object"] ++
    (if required = [] then [] else [("required", .list (required.map .text))]) ++
    [("properties", .object fields)]

def customMapper : Document :=
  .object <| record "Mapper built from a template plus mapping-language overrides" ["name"] [
    ("elements", .object <|
      [description
        "Element slot name (or \x60ForceFeedback.<Actuator>\x60) to mapping-language text",
        ("default", .map [])] ++ textMap),
    ("name", .object [type "string"]),
    ("template", .object [
      description "Mapper to start from; an empty layout when absent",
      ("type", .list [.text "string", .text "null"])])]

def mapperSelection : Document :=
  .object <| record "Which mapper each player uses" [] [
    ("default", .object [
      description "Mapper for every player without an override",
      ("default", .text ({} : MapperSelection).default), type "string"]),
    ("players", .object <|
      description "Per-player overrides, keyed by player number 1..=4" :: textMap)]

def properties : Document :=
  let base : ControllerProperties := {}
  .object <| record "Properties applied to every new virtual controller" [] [
    ("deadzone", unsignedField base.deadzone.toNat),
    ("force_feedback_gain", unsignedField base.gain.toNat),
    ("range_max", signedField base.rangeMax.toInt),
    ("range_min", signedField base.rangeMin.toInt),
    ("saturation", unsignedField base.saturation.toNat),
    ("transforms_enabled", .object [("default", .bool base.enabled), type "boolean"])]

/-- The default properties, in the order of their names. -/
def defaultProperties : Document :=
  match ({} : ControllerProperties).toDocument with
  | .map ms =>
    .map (ms.mergeSort fun a b => decide ((a.1.text?.getD "") ≤ (b.1.text?.getD "")))
  | d => d

def configuration : Document :=
  .object <|
    [("$schema", .text "http://json-schema.org/draft-07/schema#"), ("title", .text "AppConfig")] ++
      record "Root configuration structure" [] [
        ("custom_mappers",
          .object [type "array", ("items", reference "CustomMapperConfig")]),
        ("mapper", referring ({} : MapperSelection).toDocument "MapperSelection"),
        ("properties", referring defaultProperties "PropertiesConfig")] ++
      [("definitions", .object [
        ("CustomMapperConfig", customMapper),
        ("MapperSelection", mapperSelection),
        ("PropertiesConfig", properties)])]

end VirtualPad.Schema
