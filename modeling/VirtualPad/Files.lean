/-!
# Files

A tree of directories and texts, and what can go wrong with it. A path is walked component by
component: every component but the last must be a directory that is there, also where the path turns
back to the directory above.
-/

namespace VirtualPad

/-- Why an operation on files fails. -/
inductive FileFault where
  | notFound
  | isDirectory
  | notDirectory
  | alreadyExists
  | nameTooLong
  | other (reason : String)
  deriving DecidableEq, Repr

def FileFault.message : FileFault → String
  | .notFound => "No such file or directory (os error 2)"
  | .isDirectory => "Is a directory (os error 21)"
  | .notDirectory => "Not a directory (os error 20)"
  | .alreadyExists => "File exists (os error 17)"
  | .nameTooLong => "File name too long (os error 36)"
  | .other reason => reason

/-- Whether a fault says that nothing is there. -/
def FileFault.isAbsence : FileFault → Bool
  | .notFound => true
  | .notDirectory => true
  | .nameTooLong => true
  | _ => false

/-! ## Paths -/

/-- The names on the way from the root to an entry. -/
abbrev Path := List String

/-- A path inside a directory. A path that begins with a slash stands for itself. -/
def joinPath (directory path : String) : String :=
  if path.startsWith "/" || directory = "" then path
  else if directory.endsWith "/" then directory ++ path
  else directory ++ "/" ++ path

/-- The components of a written path. One that begins with a slash has an empty first component. -/
def components (path : String) : List String :=
  let cs := path.splitOn "/"
  cs.take 1 ++ (cs.drop 1).filter fun c => c != "" && c != "."

def pathOfComponents : List String → String
  | [""] => "/"
  | cs => "/".intercalate cs

/-- The most bytes of a name. -/
def nameLimit : Nat := 255

/-- The least number of bytes that a path may not have. -/
def pathLimit : Nat := 4096

/-! ## Trees -/

/-- What is at the end of a path. -/
inductive Entry where
  | directory
  | text (content : String)
  deriving DecidableEq, Repr

/-- Directories and texts. A directory that holds something is there without being listed. -/
structure Files where
  directories : List Path := []
  texts : List (Path × String) := []
  /-- Where paths begin that do not begin with a slash. -/
  working : Path := []
  deriving Repr

namespace Files

/-- The entry at the end of a way. -/
def entry? (files : Files) (p : Path) : Option Entry :=
  match files.texts.lookup p with
  | some text => some (.text text)
  | none =>
    if p = [] || files.directories.any (p.isPrefixOf ·) || files.texts.any (p.isPrefixOf ·.1) then
      some .directory
    else none

/-- Go on from an entry, which must be a directory. Whether the next one is there does not matter
yet. -/
def step (files : Files) (p : Path) (component : String) : Except FileFault Path :=
  match files.entry? p with
  | none => .error .notFound
  | some (.text _) => .error .notDirectory
  | some .directory =>
    if component = "" ∨ component = "." then .ok p
    else if component = ".." then .ok p.dropLast
    else if nameLimit < component.utf8ByteSize then .error .nameTooLong
    else .ok (p ++ [component])

/-- The way that a written path stands for. -/
def resolve (files : Files) (path : String) : Except FileFault Path :=
  if path = "" then .error .notFound
  else if pathLimit ≤ path.utf8ByteSize then .error .nameTooLong
  else (path.splitOn "/").foldlM files.step (if path.startsWith "/" then [] else files.working)

def find (files : Files) (path : String) : Except FileFault Entry :=
  match files.resolve path with
  | .error fault => .error fault
  | .ok p =>
    match files.entry? p with
    | none => .error .notFound
    | some e => .ok e

def contains (files : Files) (path : String) : Bool := (files.find path).toOption.isSome

def isDirectory (files : Files) (path : String) : Bool :=
  (files.find path).toOption == some .directory

def read (files : Files) (path : String) : Except FileFault String :=
  match files.find path with
  | .error fault => .error fault
  | .ok .directory => .error .isDirectory
  | .ok (.text text) => .ok text

/-- Put a text at a path, with the directories above it. -/
def write (files : Files) (path text : String) : Files :=
  let p := files.working ++ components path
  { files with texts := (p, text) :: files.texts }

/-! ## Making directories -/

def withoutLastSlashes (path : String) : String :=
  match path.toList.reverse.dropWhile (· == '/') with
  | [] => path
  | cs => String.ofList cs.reverse

def createDirectory (files : Files) (path : String) : Except FileFault Files :=
  match files.resolve (withoutLastSlashes path) with
  | .error fault => .error fault
  | .ok p =>
    match files.entry? p with
    | some _ => .error .alreadyExists
    | none => .ok { files with directories := p :: files.directories }

def ensureDirectory (files : Files) (path : String) : Except FileFault Files :=
  match files.createDirectory path with
  | .ok files => .ok files
  | .error fault => if files.isDirectory path then .ok files else .error fault

/-- Create the directory with some components, the last of which comes first, and where something is
missing above it, that first. -/
def createAbove (files : Files) : List String → Except FileFault Files
  | [] => .ok files
  | c :: above =>
    let path := pathOfComponents (above.reverse ++ [c])
    match files.ensureDirectory path with
    | .error .notFound =>
      match createAbove files above with
      | .ok files => files.ensureDirectory path
      | .error fault => .error fault
    | outcome => outcome

/-- Create a directory with all directories above it. -/
def createDirectories (files : Files) (path : String) : Except FileFault Files :=
  match files.ensureDirectory path with
  | .error .notFound =>
    match files.createAbove (components path).reverse.tail with
    | .ok files => files.ensureDirectory path
    | .error fault => .error fault
  | outcome => outcome

end Files

end VirtualPad
