import VirtualPad.Files

/-!
# Locations

Where the configuration file and the logs live. A configuration file in the working directory wins;
a marker beside the executable keeps everything there; otherwise a directory of the user holds both.
-/

namespace VirtualPad

def configurationFileName : String := "xidi.yaml"

/-- The name of the file beside the executable that keeps everything there. -/
def portableMarkerName : String := ".portable"

/-- The name of the directory inside the user's one. -/
def userDirectoryName : String := "Xidi"

/-- The directory of the configuration file and the logs. -/
structure Locations where
  base : String
  /-- Whether this is the working directory, or the one of the executable. -/
  portable : Bool
  deriving DecidableEq, Repr

namespace Locations

def configuration (l : Locations) : String := joinPath l.base configurationFileName

def logs (l : Locations) : String := joinPath l.base "logs"

/-- Choose the locations. `marked` tells whether the working directory holds a configuration file,
and whether the executable has a marker beside it. -/
def choose (marked : Bool × Bool) (working executable : String) (user : Option String) :
    Locations :=
  if marked.1 then ⟨working, true⟩
  else if marked.2 then ⟨executable, true⟩
  else ⟨joinPath (user.getD executable) userDirectoryName, false⟩

/-- The files that decide. -/
def markers (working executable : String) : String × String :=
  (joinPath working configurationFileName, joinPath executable portableMarkerName)

/-- The user's directory for configurations, from the values of the variables that give it and the
home directory. Only an absolute path counts. -/
def userDirectory? (given home : Option String) : Option String :=
  match given.filter (·.startsWith "/") with
  | some d => some d
  | none => (home.filter (· != "")).map fun h => joinPath h ".config"

/-- Create the directories, first the one of the logs. A failure names the directory. -/
def createIn (l : Locations) (files : Files) : Except (String × FileFault) Files :=
  [l.logs, l.base].foldlM
    (fun files directory =>
      if files.contains directory then .ok files
      else
        match files.createDirectories directory with
        | .ok files => .ok files
        | .error fault => .error (directory, fault))
    files

def failureMessage (directory : String) : String := "Failed to create " ++ directory

end Locations

end VirtualPad
