import VirtualPad.CommandLine.Arguments
import VirtualPad.CommandLine.Report

/-!
# Help

What the program prints about itself: what it is for, how it is used, and overviews of commands,
arguments and options with a line for each. An option whose value may come from the environment
shows what the environment says.
-/

namespace VirtualPad.CommandLine

/-- A line of an overview: how something is written, and what it means. -/
structure HelpRow where
  form : String
  meaning : String
  deriving DecidableEq, Repr

/-- An overview under its heading. What things mean stands in one column. -/
structure HelpSection where
  heading : String
  rows : List HelpRow
  deriving DecidableEq, Repr

/-- A page of help. -/
structure HelpPage where
  purpose : String
  usage : String
  sections : List HelpSection
  deriving DecidableEq, Repr

/-- The text of an overview. Where the meaning goes on in a new line, it stays in its column. -/
def HelpSection.text (s : HelpSection) : String :=
  let width := s.rows.foldl (fun n row => max n row.form.length) 0
  let margin := "\n" ++ String.ofList (List.replicate (width + 4) ' ')
  "\n".intercalate <| (s.heading ++ ":") :: s.rows.map fun row =>
    "  " ++ padRight width row.form ++ "  " ++ margin.intercalate (row.meaning.splitOn "\n")

def HelpPage.text (p : HelpPage) : String :=
  "\n\n".intercalate (p.purpose :: ("Usage: " ++ p.usage) :: p.sections.map HelpSection.text) ++ "\n"

/-! ## Pages -/

/-- The word that the program is called by. -/
def programWord : String := "xidi"

/-- The option that every command has. -/
def helpRow : HelpRow := ⟨"-h, --help", "Print help"⟩

def helpPurpose : String := "Print this message or the help of the given subcommand(s)"

namespace CommandName

def purpose : CommandName → String
  | .list => "List every known mapper and its capabilities"
  | .show => "Show the element and force feedback mapping of one mapper"
  | .parse => "Parse a mapping-language string and print its canonical form"
  | .check => "Validate the configuration file"
  | .schema => "Print the configuration file's JSON schema"
  | .watch => "Validate the configuration file on every change"

def wordRow? : CommandName → Option HelpRow
  | .show => some ⟨"[MAPPER]", "Mapper name; the configured default when omitted"⟩
  | .parse => some ⟨"<TEXT>", ""⟩
  | _ => none

def flagRow? (c : CommandName) : Option HelpRow :=
  let meaning :=
    match c with
    | .list => "Print capabilities as JSON"
    | _ => "Parse as a force feedback actuator instead of an element mapper"
  c.flag?.map fun flag => ⟨"    --" ++ flag, meaning⟩

def page (c : CommandName) : HelpPage :=
  let options := if c.flag?.isSome then ["[OPTIONS]"] else []
  let arguments : List HelpSection :=
    match c.wordRow? with
    | some row => [⟨"Arguments", [row]⟩]
    | none => []
  { purpose := c.purpose
    usage := " ".intercalate
      ([programWord, c.word] ++ options ++ (c.wordRow?.map HelpRow.form).toList)
    sections := arguments ++ [⟨"Options", c.flagRow?.toList ++ [helpRow]⟩] }

end CommandName

/-- A meaning with the variable that gives a value, and its present value. -/
def withVariable (ofVariable : String → Option String) (meaning name : String) : String :=
  meaning ++ " [env: " ++ name ++ "=" ++ (ofVariable name).getD "" ++ "]"

def programPage (ofVariable : String → Option String) : HelpPage :=
  { purpose := "DirectInput-style virtual controllers on top of XInput gamepads: mapping DSL, " ++
      "axis properties, buffered events, force feedback"
    usage := programWord ++ " [OPTIONS] <COMMAND>"
    sections := [
      ⟨"Commands", (CommandName.all.map fun c => ⟨c.word, c.purpose⟩) ++ [⟨"help", helpPurpose⟩]⟩,
      ⟨"Options", [
        ⟨"-c, --config <CONFIG>", withVariable ofVariable
          "Path to configuration file (detected when omitted)" "XIDI_CONFIG"⟩,
        ⟨"-l, --log-level <LOG_LEVEL>", withVariable ofVariable
          "Log level (error, warn, info, debug, trace)" "LOG_LEVEL" ++ " [default: warn]"⟩,
        ⟨"    --log-file <LOG_FILE>", "Also write daily log files to this directory"⟩,
        helpRow,
        ⟨"-V, --version", "Print version"⟩]⟩] }

def helpPage : HelpPage :=
  { purpose := helpPurpose
    usage := programWord ++ " help [COMMAND]..."
    sections := [⟨"Arguments", [⟨"[COMMAND]...", "Print help for the subcommand(s)"⟩]⟩] }

def Topic.text (ofVariable : String → Option String) : Topic → String
  | .program => (programPage ofVariable).text
  | .command c => c.page.text
  | .help => helpPage.text

end VirtualPad.CommandLine
