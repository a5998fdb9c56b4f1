import VirtualPad.OrderedMap
import VirtualPad.Registry.Layouts

/-!
# Mapper registry

Mappers by name. Names are unique, and one of the registered mappers is the default, which the empty
name stands for when a mapper is looked up. New mappers come from blueprints: overrides on top of a
registered mapper, or of an empty one.
-/

namespace VirtualPad

/-- Why the registry refuses. -/
inductive RegistryError where
  | emptyName
  | duplicate (name : String)
  | unknown (name : String)
  deriving DecidableEq, Repr

def RegistryError.message : RegistryError → String
  | .emptyName => "mapper name must not be empty"
  | .duplicate name => "mapper '" ++ name ++ "' is already registered"
  | .unknown name => "mapper '" ++ name ++ "' is not registered"

/-- Overrides on top of a template. -/
structure Blueprint where
  name : String
  /-- The name of the mapper to start from; without one, nothing is mapped. -/
  template : Option String
  elements : List (Slot × ElementMapper)
  actuators : List (Actuator × ActuatorMode)

/-- Mappers by name, the default one among them. -/
structure Registry where
  mappers : OrderedMap String Mapper
  default : Mapper
  /-- The mapper that maps nothing. -/
  null : Mapper

namespace Registry

/-- The registry of the built-in mappers. -/
def builtIn : Registry :=
  ⟨.ofList (Layouts.all.map fun m => (m.name, m)), Layouts.standardGamepad, Layouts.null⟩

/-- Look up a mapper; the empty name stands for the default. -/
def get? (r : Registry) (name : String) : Option Mapper :=
  if name = "" then some r.default else r.mappers.get? name

def contains (r : Registry) (name : String) : Bool := r.mappers.contains name

def names (r : Registry) : List String := r.mappers.keys

def size (r : Registry) : Nat := r.mappers.size

def setDefault (r : Registry) (name : String) : Registry × Except RegistryError Unit :=
  match r.mappers.get? name with
  | some m => ({ r with default := m }, .ok ())
  | none => (r, .error (.unknown name))

/-- Check that a name can be given to a further mapper. -/
def checkName (r : Registry) (name : String) : Except RegistryError Unit :=
  if name = "" then .error .emptyName
  else if r.contains name then .error (.duplicate name)
  else .ok ()

def register (r : Registry) (m : Mapper) : Registry × Except RegistryError Mapper :=
  match r.checkName m.name with
  | .error e => (r, .error e)
  | .ok () => ({ r with mappers := r.mappers.insert m.name m }, .ok m)

/-- What a blueprint starts from. -/
def base (r : Registry) : Option String → Except RegistryError (ElementMap × ActuatorMap)
  | none => .ok (.empty, .standard)
  | some template =>
    match r.mappers.get? template with
    | some m => .ok (m.elements, m.actuators)
    | none => .error (.unknown template)

/-- Build a mapper from a blueprint. Of two overrides of one slot the later one counts. -/
def build (r : Registry) (b : Blueprint) : Except RegistryError Mapper :=
  match r.base b.template with
  | .error e => .error e
  | .ok (elements, actuators) =>
    .ok {
      name := b.name
      elements := b.elements.foldl (fun m (s, t) => m.set s t) elements
      actuators := b.actuators.foldl (fun m (a, mode) => m.set a mode) actuators }

def registerBlueprint (r : Registry) (b : Blueprint) : Registry × Except RegistryError Mapper :=
  match r.checkName b.name with
  | .error e => (r, .error e)
  | .ok () =>
    match r.build b with
    | .error e => (r, .error e)
    | .ok m => r.register m

end Registry

end VirtualPad
