/-!
# Command line arguments

What the words of a command line ask for. Options stand in front of the command, except for those of
the command itself. Their values follow as the next word, behind an equals sign, or right behind the
letter of a short option.
-/

namespace VirtualPad.CommandLine

/-- What is to be done. -/
inductive Command where
  | list (json : Bool)
  /-- Without a name the default mapper is shown. -/
  | show (mapper : Option String)
  | parse (text : String) (actuator : Bool)
  | check
  | schema
  | watch
  deriving DecidableEq, Repr

inductive CommandName where
  | list | show | parse | check | schema | watch
  deriving DecidableEq, Repr

/-- What help is about. -/
inductive Topic where
  | program
  | command (name : CommandName)
  /-- The command that gives help. -/
  | help
  deriving DecidableEq, Repr

/-- A command line that was understood. -/
structure Invocation where
  configuration : Option String := none
  logLevel : String := "warn"
  logDirectory : Option String := none
  command : Command
  deriving DecidableEq, Repr

/-- What a command line asks for. -/
inductive Request where
  | run (invocation : Invocation)
  | help (topic : Topic)
  | version
  /-- The command line is not understood. -/
  | misuse
  deriving DecidableEq, Repr

/-! ## Options -/

/-- An option with a value. -/
inductive ValueOption where
  | configuration | logLevel | logDirectory
  deriving DecidableEq, Repr

namespace ValueOption

def ofName? : String → Option ValueOption
  | "config" => some .configuration
  | "log-level" => some .logLevel
  | "log-file" => some .logDirectory
  | _ => none

def ofLetter? : Char → Option ValueOption
  | 'c' => some .configuration
  | 'l' => some .logLevel
  | _ => none

/-- Whether a value may be empty. Paths may not. -/
def allowsEmpty : ValueOption → Bool
  | .logLevel => true
  | _ => false

end ValueOption

structure Given where
  configuration : Option String := none
  logLevel : Option String := none
  logDirectory : Option String := none

def Given.set? (g : Given) (o : ValueOption) (value : String) : Option Given :=
  if value = "" && !o.allowsEmpty then none
  else
    match o with
    | .configuration =>
      if g.configuration.isSome then none else some { g with configuration := some value }
    | .logLevel => if g.logLevel.isSome then none else some { g with logLevel := some value }
    | .logDirectory =>
      if g.logDirectory.isSome then none else some { g with logDirectory := some value }

/-! ## Words -/

/-- A word of the command line by its form. -/
inductive Word where
  | plain
  /-- Two hyphens alone: only plain words follow. -/
  | separator
  | long (name : String) (value : Option String)
  | short (letter : Char) (tail : List Char)
  deriving DecidableEq, Repr

def Word.ofString (w : String) : Word :=
  match w.toList with
  | ['-', '-'] => .separator
  | '-' :: '-' :: rest =>
    let name := rest.takeWhile (· != '=')
    let value :=
      match rest.drop name.length with
      | [] => none
      | _ :: value => some (String.ofList value)
    .long (String.ofList name) value
  | '-' :: letter :: tail => .short letter tail
  | _ => .plain

/-! ## Commands -/

namespace CommandName

def all : List CommandName := [.list, .show, .parse, .check, .schema, .watch]

def word : CommandName → String
  | .list => "list"
  | .show => "show"
  | .parse => "parse"
  | .check => "check"
  | .schema => "schema"
  | .watch => "watch"

def ofWord? (w : String) : Option CommandName := all.find? (·.word == w)

/-- The name of the flag that a command may have. -/
def flag? : CommandName → Option String
  | .list => some "json"
  | .parse => some "actuator"
  | _ => none

def takesWord : CommandName → Bool
  | .show => true
  | .parse => true
  | _ => false

/-- The command with its flag and its word, if that is all it needs. -/
def build? (flag : Bool) (word : Option String) : CommandName → Option Command
  | .list => some (.list flag)
  | .show => some (.show word)
  | .parse => word.map fun text => .parse text flag
  | .check => some .check
  | .schema => some .schema
  | .watch => some .watch

end CommandName

/-- What the words behind the name of a command ask for. -/
def commandWords (name : CommandName) (run : Command → Request) (flag : Bool)
    (word : Option String) (separated : Bool) : List String → Request
  | [] => ((name.build? flag word).map run).getD .misuse
  | w :: ws =>
    let takeWord : Request :=
      if name.takesWord && word.isNone then commandWords name run flag (some w) separated ws
      else .misuse
    if separated then takeWord
    else
      match Word.ofString w with
      | .plain => takeWord
      | .separator => commandWords name run flag word true ws
      | .long "help" none => .help (.command name)
      | .short 'h' _ => .help (.command name)
      | .long option none =>
        if name.flag? = some option && !flag then commandWords name run true word false ws
        else .misuse
      | _ => .misuse

/-- What the words behind the command that gives help ask for. -/
def helpWords : List String → Request
  | [] => .help .program
  | [w] =>
    if w = "help" then .help .help
    else ((CommandName.ofWord? w).map fun name => .help (.command name)).getD .misuse
  | _ => .misuse

/-- What the words of a command line ask for, after some options. A configuration file and a log
level that are not given come from the environment. -/
def words (ofVariable : String → Option String) (given : Given) : List String → Request
  | [] => .misuse
  | w :: ws =>
    match Word.ofString w with
    | .plain =>
      match CommandName.ofWord? w with
      | none => if w = "help" then helpWords ws else .misuse
      | some name =>
        let configuration := given.configuration.or (ofVariable "XIDI_CONFIG")
        let logLevel := (given.logLevel.or (ofVariable "LOG_LEVEL")).getD "warn"
        let run (command : Command) : Request :=
          if configuration = some "" then .misuse
          else .run { configuration, logLevel, logDirectory := given.logDirectory, command }
        commandWords name run false none false ws
    | .separator => .misuse
    | .long "help" none => .help .program
    | .long "version" none => .version
    | .long name value =>
      match ValueOption.ofName? name, value, ws with
      | none, _, _ => .misuse
      | some o, some value, ws =>
        match given.set? o value with
        | some given => words ofVariable given ws
        | none => .misuse
      | some _, none, [] => .misuse
      | some o, none, value :: ws =>
        match Word.ofString value, given.set? o value with
        | .plain, some given => words ofVariable given ws
        | _, _ => .misuse
    | .short 'h' _ => .help .program
    | .short 'V' _ => .version
    | .short letter tail =>
      match ValueOption.ofLetter? letter, tail, ws with
      | none, _, _ => .misuse
      | some o, c :: tail, ws =>
        match given.set? o (String.ofList (if c = '=' then tail else c :: tail)) with
        | some given => words ofVariable given ws
        | none => .misuse
      | some _, [], [] => .misuse
      | some o, [], value :: ws =>
        match Word.ofString value, given.set? o value with
        | .plain, some given => words ofVariable given ws
        | _, _ => .misuse

/-- What a command line asks for. -/
def Request.ofArguments (ofVariable : String → Option String) (arguments : List String) : Request :=
  words ofVariable {} arguments

end VirtualPad.CommandLine
