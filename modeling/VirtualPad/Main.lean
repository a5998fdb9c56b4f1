import VirtualPad.CommandLine.Run

/-!
# The program

The command line on a real disk.
-/

namespace VirtualPad.CommandLine

/-- What went wrong on the disk. -/
def faultOf : IO.Error → FileFault
  | .noFileOrDirectory .. => .notFound
  | .inappropriateType .. => .isDirectory
  | .alreadyExists .. => .alreadyExists
  | e => .other (toString e)

/-- Do something with files and keep what goes wrong. -/
def guarded {α : Type} (act : IO α) : IO (Except FileFault α) := do
  match ← act.toBaseIO with
  | .ok a => return .ok a
  | .error e => return .error (faultOf e)

/-- The use of files on the disk. -/
def disk : FileAccess IO where
  exists? path := do
    match ← guarded (IO.FS.withFile path .read fun _ => pure ()) with
    | .ok () => return true
    | .error fault => return !fault.isAbsence
  read path := guarded (IO.FS.readFile path)
  createDirectories path := guarded (IO.FS.createDirAll path)

/-- The variables that the program looks at. -/
def variableNames : List String := ["XIDI_CONFIG", "LOG_LEVEL", "XDG_CONFIG_HOME", "HOME"]

/-- Where the program runs. Of the environment it knows what it looks at, and what a file of
variables may refer to. -/
def surroundings : IO Surroundings := do
  let working := (← IO.currentDir).toString
  let executable := ((← IO.appPath).parent.map toString).getD "."
  let mentioned :=
    match ← disk.read (joinPath working variablesFileName) with
    | .ok text => mentionedNames text
    | .error _ => []
  let environment ← (variableNames ++ mentioned).filterMapM fun name => do
    return (← IO.getEnv name).map fun value => (name, value)
  return { environment, working, executable }

/-- Follow a file: print whenever it holds another valid configuration. -/
partial def follow (path : String) (current : LoadedConfiguration) : IO Unit := do
  IO.sleep 100
  match ← disk.read path with
  | .error _ => follow path current
  | .ok text =>
    match current.reload? Yaml.codec text with
    | none => follow path current
    | some l =>
      IO.print (reloadedText l)
      follow path l

end VirtualPad.CommandLine

def main (arguments : List String) : IO UInt32 := do
  let s ← VirtualPad.CommandLine.surroundings
  let outcome ← VirtualPad.CommandLine.run VirtualPad.CommandLine.disk s arguments
  IO.print outcome.out
  IO.eprint outcome.err
  match outcome.following with
  | some (path, l) => VirtualPad.CommandLine.follow path l
  | none => pure ()
  return outcome.code.toUInt32
