import VirtualPad.Text.Class

/-!
# Variables

The variables of the environment, and files that add to them. A line of such a file gives a value to
a name. Parts of a value may stand in quotes, between which it goes on over several lines; a dollar
sign puts in the value of another variable; and a hash begins a comment.

The first line that is not understood ends the reading of a file.
-/

namespace VirtualPad.CommandLine

/-- Variables and their values; the first value of a name counts. -/
abbrev Variables := List (String × String)

def variablesFileName : String := ".env"

def Variables.get? (vs : Variables) (name : String) : Option String := vs.lookup name

/-! ## Lines -/

/-- What is open at a place of a line. -/
inductive LineState where
  | closed
  /-- Behind a blank. -/
  | blank
  | backslash
  | double
  /-- Behind a backslash in double quotes. -/
  | doubleBackslash
  | single
  /-- Behind a backslash in single quotes. -/
  | singleBackslash
  deriving DecidableEq, Repr

namespace LineState

/-- What a character opens where nothing is open. -/
def opening (c : Char) : LineState :=
  if c == '\\' then .backslash
  else if c == '"' then .double
  else if c == '\'' then .single
  else .closed

/-- The state behind a character; none, if a comment begins with it. -/
def next? (s : LineState) (c : Char) : Option LineState :=
  match s with
  | .closed => if isWhite c && c != '\n' && c != '\r' then some .blank else some (opening c)
  | .blank => if c == '#' then none else some (opening c)
  | .backslash => some .closed
  | .double => some (if c == '\\' then .doubleBackslash else if c == '"' then .closed else .double)
  | .doubleBackslash => some .double
  | .single => some (if c == '\\' then .singleBackslash else if c == '\'' then .closed else .single)
  | .singleBackslash => some .single

end LineState

/-- The lines of a text, without comments. A line ends only where nothing is open; what is open at
the end of the text is no line. -/
def logicalLines (line : List Char) (s : LineState) (comment : Bool) :
    List Char → List (List Char)
  | [] => if comment || s = .closed then [line.reverse] else []
  | c :: rest =>
    if comment then
      if c == '\n' then line.reverse :: logicalLines [] .closed false rest
      else logicalLines line s true rest
    else if c == '#' && line.all isWhite then logicalLines [] s true rest
    else
      match s.next? c with
      | none => logicalLines line s true rest
      | some s =>
        if c == '\n' && s = .closed then line.reverse :: logicalLines [] .closed false rest
        else logicalLines (c :: line) s false rest

/-! ## Values -/

/-- How the characters of a value are understood. -/
inductive ValueState where
  | bare
  | single
  | double
  /-- Behind a backslash, inside or outside of double quotes. -/
  | escaped (quoted : Bool)
  /-- In the name of a variable behind a dollar sign, inside or outside of double quotes. -/
  | name (read : List Char) (quoted : Bool)
  /-- In the name of a variable between braces. -/
  | braced (read : List Char) (quoted : Bool)
  /-- Behind the value; only a comment may follow. -/
  | ended
  deriving DecidableEq, Repr

/-- Outside of names and quotes, or between double quotes. -/
def ValueState.around (quoted : Bool) : ValueState := if quoted then .double else .bare

/-- The character that one behind a backslash stands for. -/
def escapedInValue? (c : Char) : Option Char :=
  [('\\', '\\'), ('\'', '\''), ('"', '"'), ('$', '$'), (' ', ' '), ('n', '\n')].lookup c

/-- Put the value of a variable behind a text, the name and the text in reverse. Without a value
there is nothing to put. -/
def Variables.substitute (vs : Variables) (name text : List Char) : List Char :=
  ((vs.get? (String.ofList name.reverse)).getD "").toList.reverse ++ text

/-- Read a value; what was read is in reverse. -/
def value? (vs : Variables) (text : List Char) : ValueState → List Char → Option (List Char)
  | .bare, [] => some text.reverse
  | .escaped false, [] => some text.reverse
  | .ended, [] => some text.reverse
  | .name read false, [] => some (vs.substitute read text).reverse
  | _, [] => none
  | .ended, c :: cs =>
    if c == ' ' || c == '\t' then value? vs text .ended cs
    else if c == '#' then some text.reverse
    else none
  | .escaped quoted, c :: cs =>
    match escapedInValue? c with
    | some d => value? vs (d :: text) (.around quoted) cs
    | none => none
  | .single, c :: cs =>
    if c == '\'' then value? vs text .bare cs else value? vs (c :: text) .single cs
  | .name read quoted, c :: cs =>
    if isAlphanumeric c then value? vs text (.name (c :: read) quoted) cs
    else if c == '\x7b' && read.isEmpty then value? vs text (.braced [] quoted) cs
    else
      let text := vs.substitute read text
      if c == '$' then value? vs text (.name [] quoted) cs
      else value? vs (c :: text) (.around quoted) cs
  | .braced read quoted, c :: cs =>
    if c == '\x7d' then value? vs (vs.substitute read text) (.around quoted) cs
    else value? vs text (.braced (c :: read) quoted) cs
  | .double, c :: cs =>
    if c == '$' then value? vs text (.name [] true) cs
    else if c == '"' then value? vs text .bare cs
    else if c == '\\' then value? vs text (.escaped true) cs
    else value? vs (c :: text) .double cs
  | .bare, c :: cs =>
    if c == '$' then value? vs text (.name [] false) cs
    else if c == '\'' then value? vs text .single cs
    else if c == '"' then value? vs text .double cs
    else if c == '\\' then value? vs text (.escaped false) cs
    else if c == ' ' || c == '\t' then value? vs text .ended cs
    else value? vs (c :: text) .bare cs

/-! ## Assignments -/

/-- The name at the beginning of a text, and what follows it and blanks. -/
def name? (s : List Char) : Option (List Char × List Char) :=
  match s with
  | [] => none
  | c :: _ =>
    if c.isAlpha || c == '_' then
      let name := s.takeWhile fun c => c.isAlphanum || c == '_' || c == '.'
      some (name, (s.drop name.length).dropWhile isWhite)
    else none

/-- The name that a line gives a value to, and what follows the equals sign and blanks. The word
`export` may stand in front of the name. -/
def target? (s : List Char) : Option (List Char × List Char) :=
  match name? s with
  | some (name, '=' :: rest) => some (name, rest.dropWhile isWhite)
  | some (name, rest) =>
    if name = "export".toList then
      match name? rest with
      | some (name, '=' :: rest) => some (name, rest.dropWhile isWhite)
      | _ => none
    else none
  | none => none

/-- Read a line: nothing if it is not understood, and otherwise the variable that it sets, if
any. -/
def line? (vs : Variables) (line : List Char) : Option (Option (String × String)) :=
  let s := (line.reverse.dropWhile isWhite).reverse.dropWhile isWhite
  if s.head?.all (· == '#') then some none
  else
    match target? s with
    | none => none
    | some (name, rest) =>
      let value := if rest.head?.all (· == '#') then some [] else value? vs [] .bare rest
      value.map fun value => some (String.ofList name, String.ofList value)

/-- Add what lines set to the variables, up to the first line that is not understood. What is set
already keeps its value. -/
def Variables.addLines (vs : Variables) : List (List Char) → Variables
  | [] => vs
  | l :: ls =>
    match line? vs l with
    | none => vs
    | some none => addLines vs ls
    | some (some v) => addLines (vs ++ [v]) ls

/-- Add what a text sets to the variables. A byte order mark in front of it does not count. -/
def Variables.addText (vs : Variables) (text : String) : Variables :=
  let s := text.toList
  vs.addLines (logicalLines [] .closed false (if s.head? = some '\ufeff' then s.drop 1 else s))

/-- Names that a text may refer to. -/
def mentionedNames (text : String) : List String :=
  let words (isPart : Char → Bool) : List String :=
    ((text.map fun c => if isPart c then c else ' ').splitOn " ").filter (· != "")
  (words isAlphanumeric ++ words fun c => c.isAlphanum || c == '_' || c == '.').eraseDups

end VirtualPad.CommandLine
