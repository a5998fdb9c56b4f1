import VirtualPad.Configuration.Basic
import VirtualPad.Document.Decode

/-!
# Configurations as documents

How a configuration is written as a document and read from a node. Fields that are absent have their
defaults, and fields that nobody knows do not matter.
-/

namespace VirtualPad

open Decode (bool field int32 listOf mapOf optionalText record text uint8 uint32)

/-! ## Mapper selection -/

namespace MapperSelection

def ofNode : Node → Decode MapperSelection :=
  record "MapperSelection"
    [field "default" text fun m name => { m with default := name },
      field "players" (mapOf uint8 text) fun m players => { m with players }]
    {}

/-- A mapper selection as a document. Without a player of their own there is no field for them. -/
def toDocument (m : MapperSelection) : Document :=
  .object <|
    ("default", .text m.default) ::
      if m.players.isEmpty then []
      else [("players", .map (m.players.entries.map fun (p, name) => (.nat p.toNat, .text name)))]

end MapperSelection

/-! ## Custom mappers -/

namespace CustomMapper

/-- Read a custom mapper, which must have a name. In a list it must have its template as well. -/
def ofNode : Node → Decode CustomMapper :=
  record "CustomMapperConfig"
    [field "name" text (fun m name => { m with name }) .always,
      field "template" optionalText (fun m template => { m with template }) .positional,
      field "elements" (mapOf text text) fun m elements => { m with elements }]
    { name := "" }

/-- A custom mapper as a document. Without a template there is no field for it. -/
def toDocument (m : CustomMapper) : Document :=
  .object <|
    [("name", .text m.name)] ++ (m.template.map fun t => ("template", .text t)).toList ++
      [("elements", .map (m.elements.entries.map fun (k, text) => (.text k, .text text)))]

end CustomMapper

/-! ## Properties -/

namespace ControllerProperties

def ofNode : Node → Decode ControllerProperties :=
  record "PropertiesConfig"
    [field "deadzone" uint32 fun p deadzone => { p with deadzone },
      field "saturation" uint32 fun p saturation => { p with saturation },
      field "range_min" int32 fun p rangeMin => { p with rangeMin },
      field "range_max" int32 fun p rangeMax => { p with rangeMax },
      field "force_feedback_gain" uint32 fun p gain => { p with gain },
      field "transforms_enabled" bool fun p enabled => { p with enabled }]
    {}

def toDocument (p : ControllerProperties) : Document :=
  .object [
    ("deadzone", .nat p.deadzone.toNat),
    ("saturation", .nat p.saturation.toNat),
    ("range_min", .int p.rangeMin.toInt),
    ("range_max", .int p.rangeMax.toInt),
    ("force_feedback_gain", .nat p.gain.toNat),
    ("transforms_enabled", .bool p.enabled)]

end ControllerProperties

/-! ## Configurations -/

namespace Configuration

def ofNode : Node → Decode Configuration :=
  record "AppConfig"
    [field "mapper" MapperSelection.ofNode fun c mapper => { c with mapper },
      field "custom_mappers" (listOf CustomMapper.ofNode) fun c customMappers =>
        { c with customMappers },
      field "properties" ControllerProperties.ofNode fun c properties => { c with properties }]
    {}

/-- A configuration as a document. Without custom mappers there is no field for them. -/
def toDocument (c : Configuration) : Document :=
  .object <|
    [("mapper", c.mapper.toDocument)] ++
      (if c.customMappers = [] then []
        else [("custom_mappers", .list (c.customMappers.map CustomMapper.toDocument))]) ++
      [("properties", c.properties.toDocument)]

end Configuration

end VirtualPad
