import VirtualPad.Configuration.Check
import VirtualPad.Configuration.Codec
import VirtualPad.Document.Yaml.Decode
import VirtualPad.Files

/-!
# Configuration files

Configurations read from texts and files, checked, together with their registry. What is read anew
replaces what is in use only if it is valid and says something else.
-/

namespace VirtualPad

/-- Why a text is not a configuration. -/
inductive TextFault where
  /-- The text is not YAML, or not of the form of a configuration. -/
  | malformed (fault : Yaml.Fault)
  | invalid (error : ConfigurationError)
  deriving DecidableEq, Repr

/-- Why a file cannot be used. -/
inductive FileError where
  | unreadable (path : String) (fault : FileFault)
  | unusable (path : String) (fault : TextFault)
  deriving DecidableEq, Repr

def TextFault.messages : TextFault → List String
  | .malformed fault => ["Failed to parse YAML config", fault.message]
  | .invalid error => error.messages

def FileError.messages : FileError → List String
  | .unreadable path fault => ["Failed to read config file: " ++ path, fault.message]
  | .unusable path fault => ("Invalid config file: " ++ path) :: fault.messages

namespace Configuration

/-- Read a configuration from a text, and check it. -/
def ofText (y : Yaml.Codec) (text : String) : Except TextFault Configuration :=
  match y.decode ofNode text with
  | .error fault => .error (.malformed fault)
  | .ok c =>
    match c.validate with
    | .error e => .error (.invalid e)
    | .ok () => .ok c

def toText (y : Yaml.Codec) (c : Configuration) : String := y.print c.toDocument

/-- Read a configuration from what a file holds, and check it. -/
def ofFile (y : Yaml.Codec) (path : String) :
    Except FileFault String → Except FileError Configuration
  | .error fault => .error (.unreadable path fault)
  | .ok text =>
    match ofText y text with
    | .error fault => .error (.unusable path fault)
    | .ok c => .ok c

end Configuration

/-- A configuration with its registry. -/
structure LoadedConfiguration where
  configuration : Configuration
  registry : Registry

namespace LoadedConfiguration

/-- Build the registry of a configuration. -/
def ofConfiguration (c : Configuration) : Except ConfigurationError LoadedConfiguration :=
  match c.buildRegistry with
  | .error e => .error e
  | .ok r => .ok ⟨c, r⟩

/-- Read a configuration from a text, check it, and build its registry. -/
def ofText (y : Yaml.Codec) (text : String) : Except TextFault LoadedConfiguration :=
  match Configuration.ofText y text with
  | .error fault => .error fault
  | .ok c =>
    match ofConfiguration c with
    | .error e => .error (.invalid e)
    | .ok l => .ok l

/-- Read a configuration from what a file holds, check it, and build its registry. -/
def ofFile (y : Yaml.Codec) (path : String) :
    Except FileFault String → Except FileError LoadedConfiguration
  | .error fault => .error (.unreadable path fault)
  | .ok text =>
    match ofText y text with
    | .error fault => .error (.unusable path fault)
    | .ok l => .ok l

/-- What replaces the configuration in use when its file holds a text: nothing, if the text is of no
use or says the same. -/
def reload? (y : Yaml.Codec) (current : LoadedConfiguration) (text : String) :
    Option LoadedConfiguration :=
  match ofText y text with
  | .error _ => none
  | .ok l => if l.configuration = current.configuration then none else some l

end LoadedConfiguration

end VirtualPad
