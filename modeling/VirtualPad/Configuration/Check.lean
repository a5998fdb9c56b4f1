import VirtualPad.Actuator.Parser
import VirtualPad.Configuration.Basic
import VirtualPad.ElementMapper.Parser

/-!
# Checking configurations

A configuration is turned into a registry: the built-in mappers, the custom ones in their order, and
the default. A configuration is valid when this succeeds and its properties, players and names are
in order too.
-/

namespace VirtualPad

inductive PropertiesFault where
  | deadzone (value : UInt32)
  | saturation (value : UInt32)
  | range (low high : Int32)
  | gain (value : UInt32)
  deriving DecidableEq, Repr

def PropertiesFault.message : PropertiesFault → String
  | .deadzone v =>
    "deadzone " ++ toString v.toNat ++ " is invalid (must be 0-" ++
      toString axisPropertyMax.toNat ++ ")"
  | .saturation v =>
    "saturation " ++ toString v.toNat ++ " is invalid (must be 0-" ++
      toString axisPropertyMax.toNat ++ ")"
  | .range low high =>
    "range_min " ++ toString low.toInt ++ " must be less than range_max " ++ toString high.toInt
  | .gain v =>
    "force_feedback_gain " ++ toString v.toNat ++ " is invalid (must be 0-" ++
      toString controllerGainMax.toNat ++ ")"

inductive CustomMapperFault where
  | unknownActuator (element : String)
  | unknownElement (element : String)
  | value (element : String) (error : Language.ParseError)
  | registry (error : RegistryError)
  deriving DecidableEq, Repr

/-- Why a configuration is not valid. -/
inductive ConfigurationError where
  | properties (fault : PropertiesFault)
  | player (player : UInt8)
  | emptyName
  | repeatedName (name : String)
  | customMapper (name : String) (fault : CustomMapperFault)
  | defaultMapper (error : RegistryError)
  | unknownMapper (player : UInt8) (mapper : String)
  deriving DecidableEq, Repr

def CustomMapperFault.messages : CustomMapperFault → List String
  | .unknownActuator e => ["Unknown force feedback actuator '" ++ e ++ "'"]
  | .unknownElement e => ["Unknown element '" ++ e ++ "'"]
  | .value e error => ["Invalid value for '" ++ e ++ "'", error.message]
  | .registry error => [error.message]

def ConfigurationError.messages : ConfigurationError → List String
  | .properties fault => ["Invalid properties", fault.message]
  | .player p =>
    ["Player " ++ toString p.toNat ++ " is invalid (must be 1-" ++ toString gamepadCount.toNat ++
      ")"]
  | .emptyName => ["Custom mapper name cannot be empty"]
  | .repeatedName name => ["Custom mapper '" ++ name ++ "' is defined more than once"]
  | .customMapper name fault => ("Invalid custom mapper '" ++ name ++ "'") :: fault.messages
  | .defaultMapper error => ["Invalid default mapper", error.message]
  | .unknownMapper p name =>
    ["Player " ++ toString p.toNat ++ " uses unknown mapper '" ++ name ++ "'"]

/-! ## Properties -/

def ControllerProperties.check (p : ControllerProperties) : Except PropertiesFault Unit :=
  if axisPropertyMax < p.deadzone then .error (.deadzone p.deadzone)
  else if axisPropertyMax < p.saturation then .error (.saturation p.saturation)
  else if p.rangeMax ≤ p.rangeMin then .error (.range p.rangeMin p.rangeMax)
  else if controllerGainMax < p.gain then .error (.gain p.gain)
  else .ok ()

/-! ## Custom mappers -/

namespace CustomMapper

/-- What an override is for: a motor, behind a fixed beginning, or a slot. -/
inductive Target where
  | actuator (a : Actuator)
  | slot (s : Slot)
  deriving DecidableEq, Repr

/-- The beginning of a name that addresses a motor. -/
def actuatorMark : List Char := "ForceFeedback.".toList

/-- What a name addresses. -/
def target (element : String) : Except CustomMapperFault Target :=
  if actuatorMark.isPrefixOf element.toList then
    match Actuator.ofName? (String.ofList (element.toList.drop actuatorMark.length)) with
    | some a => .ok (.actuator a)
    | none => .error (.unknownActuator element)
  else
    match Slot.ofName? element with
    | some s => .ok (.slot s)
    | none => .error (.unknownElement element)

/-- An error in the text of an override. -/
def inValue {α : Type} (element : String) :
    Except Language.ParseError α → Except CustomMapperFault α
  | .ok a => .ok a
  | .error e => .error (.value element e)

def addOverride (b : Blueprint) (element text : String) : Except CustomMapperFault Blueprint := do
  match ← target element with
  | .actuator a =>
    let mode ← inValue element (ActuatorMode.parse text)
    return { b with actuators := b.actuators ++ [(a, mode)] }
  | .slot s =>
    let t ← inValue element (ElementMapper.parse text)
    return { b with elements := b.elements ++ [(s, t)] }

/-- The blueprint of a custom mapper: its overrides in the order of their names. -/
def blueprint (m : CustomMapper) : Except CustomMapperFault Blueprint :=
  m.elements.entries.foldlM (fun b (element, text) => addOverride b element text)
    ⟨m.name, m.template, [], []⟩

def register (r : Registry) (m : CustomMapper) : Except ConfigurationError Registry :=
  match m.blueprint with
  | .error fault => .error (.customMapper m.name fault)
  | .ok b =>
    match r.registerBlueprint b with
    | (_, .error e) => .error (.customMapper m.name (.registry e))
    | (r, .ok _) => .ok r

end CustomMapper

/-! ## Configurations -/

namespace Configuration

/-- Check that the players' mappers are registered. -/
def checkPlayers (r : Registry) : List (UInt8 × String) → Except ConfigurationError Unit
  | [] => .ok ()
  | (p, name) :: rest =>
    if r.contains name then checkPlayers r rest else .error (.unknownMapper p name)

/-- The registry of a configuration. -/
def buildRegistry (c : Configuration) : Except ConfigurationError Registry := do
  let r ← c.customMappers.foldlM CustomMapper.register .builtIn
  match r.setDefault c.mapper.default with
  | (_, .error e) => .error (.defaultMapper e)
  | (r, .ok ()) =>
    checkPlayers r c.mapper.players.entries
    return r

def checkPlayerNumbers : List UInt8 → Except ConfigurationError Unit
  | [] => .ok ()
  | p :: rest =>
    if p = 0 ∨ gamepadCount < p then .error (.player p) else checkPlayerNumbers rest

/-- Check that names are not empty and not repeated, where some were used before. -/
def checkNames (used : List String) : List String → Except ConfigurationError Unit
  | [] => .ok ()
  | name :: rest =>
    if name = "" then .error .emptyName
    else if name ∈ used then .error (.repeatedName name)
    else checkNames (name :: used) rest

def validate (c : Configuration) : Except ConfigurationError Unit := do
  match c.properties.check with
  | .error fault => .error (.properties fault)
  | .ok () =>
    checkPlayerNumbers c.mapper.players.keys
    checkNames [] (c.customMappers.map (·.name))
    let _ ← c.buildRegistry

/-- The mapper of a player, who is counted from zero here. The players of a configuration are
numbered from one, and the last number stands for itself. -/
def mapperFor? (c : Configuration) (r : Registry) (player : UInt8) : Option Mapper :=
  let number := if player = 255 then player else player + 1
  r.get? ((c.mapper.players.get? number).getD "")

end Configuration

end VirtualPad
