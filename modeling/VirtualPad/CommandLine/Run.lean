import VirtualPad.CommandLine.Help
import VirtualPad.CommandLine.Variables
import VirtualPad.Configuration.Schema
import VirtualPad.Locations

/-!
# Running a command line

From the words of a command line to what is printed. Files are used through an interface, so that
the same commands run on a disk and on a tree of files that is kept in memory.
-/

namespace VirtualPad.CommandLine

/-- How files are used. Paths that do not begin with a slash begin in the working directory. -/
structure FileAccess (m : Type → Type) where
  exists? : String → m Bool
  read : String → m (Except FileFault String)
  createDirectories : String → m (Except FileFault Unit)

/-- Where a command line runs. -/
structure Surroundings where
  environment : Variables
  /-- The working directory. -/
  working : String
  /-- The directory of the executable. -/
  executable : String

def Surroundings.user (s : Surroundings) : Option String :=
  Locations.userDirectory? (s.environment.get? "XDG_CONFIG_HOME") (s.environment.get? "HOME")

/-- What a command line leads to. -/
structure Outcome where
  code : UInt8
  out : String := ""
  err : String := ""
  /-- The file to be followed from here on, and the configuration that it holds. -/
  following : Option (String × LoadedConfiguration) := none

/-- The command succeeds and prints a text. -/
def succeed (out : String) : Outcome := { code := 0, out }

/-- The command fails; the outermost text comes first. -/
def fail (messages : List String) : Outcome := { code := 1, err := failureText messages }

/-- The registry to work with: the built-in mappers alone, if there is no file. -/
def registryOf (path : String) (file : Except FileFault String) : Except FileError Registry :=
  let load : Except FileError Registry :=
    match LoadedConfiguration.ofFile Yaml.codec path file with
    | .ok l => .ok l.registry
    | .error e => .error e
  match file with
  | .error fault => if fault.isAbsence then .ok .builtIn else load
  | .ok _ => load

/-- Run a command that works with a registry. -/
def withRegistry (path : String) (file : Except FileFault String) (act : Registry → Outcome) :
    Outcome :=
  match registryOf path file with
  | .ok r => act r
  | .error e => fail e.messages

def showMapper (name : String) (r : Registry) : Outcome :=
  match r.get? name with
  | some m => succeed (mapperText m)
  | none => fail ["Unknown mapper '" ++ name ++ "'"]

/-- Print what a text means. -/
def explain : Except Language.ParseError String → Outcome
  | .ok out => succeed out
  | .error e => fail [e.message]

def Command.run (path : String) (file : Except FileFault String) : Command → Outcome
  | .list json =>
    withRegistry path file fun r => succeed (if json then listJson r else listText r)
  | .show name => withRegistry path file (showMapper (name.getD ""))
  | .parse text actuator => explain (if actuator then actuatorText text else elementText text)
  | .check =>
    match LoadedConfiguration.ofFile Yaml.codec path file with
    | .error e => fail e.messages
    | .ok l => succeed (lines ["✅ " ++ path ++ " (" ++ registryText l.registry ++ ")"])
  | .schema => succeed (lines [Json.pretty 0 Schema.configuration])
  | .watch =>
    match LoadedConfiguration.ofFile Yaml.codec path file with
    | .error e => fail ("Failed to load initial config" :: e.messages)
    | .ok l =>
      { succeed (lines ["Watching " ++ path ++ " (" ++ registryText l.registry ++ ")"]) with
        following := some (path, l) }

/-- What is printed when the file that is followed has changed. -/
def reloadedText (l : LoadedConfiguration) : String :=
  lines ["✅ reloaded: " ++ registryText l.registry]

section

variable {m : Type → Type} [Monad m]

/-- The configuration file when none is named. -/
def detect (access : FileAccess m) (s : Surroundings) : m String := do
  let (file, marker) := Locations.markers s.working s.executable
  let marked := (← access.exists? file, ← access.exists? marker)
  return (Locations.choose marked s.working s.executable s.user).configuration

def Invocation.run (access : FileAccess m) (s : Surroundings) (i : Invocation) : m Outcome := do
  let logs ←
    match i.logDirectory with
    | none => pure (.ok ())
    | some directory => access.createDirectories directory
  match i.logDirectory, logs with
  | some directory, .error fault =>
    return fail ["Failed to create log directory: " ++ directory, fault.message]
  | _, _ =>
    let path ←
      match i.configuration with
      | some path => pure path
      | none => detect access s
    return i.command.run path (← access.read path)

/-- Run a command line. A file of variables in the working directory adds to the environment. -/
def run (access : FileAccess m) (s : Surroundings) (arguments : List String) : m Outcome := do
  let s :=
    match ← access.read (joinPath s.working variablesFileName) with
    | .ok text => { s with environment := s.environment.addText text }
    | .error _ => s
  match Request.ofArguments s.environment.get? arguments with
  | .run invocation => invocation.run access s
  | .help topic => return succeed (topic.text s.environment.get?)
  | .version => return succeed (lines ["xidi-core 0.4.0"])
  | .misuse => return { code := 2, err := Topic.program.text s.environment.get? }

end

/-- The use of files that are kept in memory. -/
def memory : FileAccess (StateM Files) where
  exists? path := do return (← get).contains path
  read path := do return (← get).read path
  createDirectories path := do
    match (← get).createDirectories path with
    | .ok files =>
      set files
      return .ok ()
    | .error fault => return .error fault

end VirtualPad.CommandLine
