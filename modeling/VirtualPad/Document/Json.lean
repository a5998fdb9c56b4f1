import VirtualPad.Document.Basic

/-!
# JSON

Documents written and read as JSON. The printer writes on one line or with every item on a line of
its own. The reader accepts one value and white space around it. A member name that is a canonical
numeral is read as a plain word, so that it can serve as the key of a map from numbers.
-/

namespace VirtualPad.Json

/-! ## Writing -/

def lowHexDigit (n : Nat) : Char := if n < 10 then Char.ofNat (48 + n) else Char.ofNat (87 + n)

def escape (c : Char) : List Char :=
  match c with
  | '"' => ['\\', '"']
  | '\\' => ['\\', '\\']
  | '\n' => ['\\', 'n']
  | '\r' => ['\\', 'r']
  | '\t' => ['\\', 't']
  | '\x08' => ['\\', 'b']
  | '\x0c' => ['\\', 'f']
  | c =>
    if c.toNat < 32 then
      ['\\', 'u', '0', '0', lowHexDigit (c.toNat / 16), lowHexDigit (c.toNat % 16)]
    else [c]

def quoted (s : String) : String := "\"" ++ String.ofList (s.toList.flatMap escape) ++ "\""

/-- A scalar; nothing for a list or a map. -/
def scalar? : Document → Option String
  | .null => some "null"
  | .bool b => some (if b then "true" else "false")
  | .int i => some (toString i)
  | .decimal l => some l
  | .text s => some (quoted s)
  | .plain s => some (quoted s)
  | .list _ => none
  | .map _ => none

def memberName (key : Document) : String :=
  match key with
  | .int i => quoted (toString i)
  | key => (scalar? key).getD "\"\""

mutual

def compact : Document → String
  | .list items => "[" ++ compactItems items ++ "]"
  | .map entries => "\x7b" ++ compactMembers entries ++ "\x7d"
  | d => (scalar? d).getD ""

def compactItems : List Document → String
  | [] => ""
  | [d] => compact d
  | d :: ds => compact d ++ "," ++ compactItems ds

def compactMembers : List (Document × Document) → String
  | [] => ""
  | [(k, d)] => memberName k ++ ":" ++ compact d
  | (k, d) :: ds => memberName k ++ ":" ++ compact d ++ "," ++ compactMembers ds

end

/-- A line break, and the indent of a level. -/
def newLine (level : Nat) : String := "\n" ++ String.ofList (List.replicate (2 * level) ' ')

mutual

/-- A document over several lines, every level indented by two blanks. -/
def pretty (level : Nat) : Document → String
  | .list [] => "[]"
  | .list items => "[" ++ prettyItems (level + 1) items ++ newLine level ++ "]"
  | .map [] => "\x7b\x7d"
  | .map entries => "\x7b" ++ prettyMembers (level + 1) entries ++ newLine level ++ "\x7d"
  | d => (scalar? d).getD ""

/-- The items of a list, each on a line of its own. -/
def prettyItems (level : Nat) : List Document → String
  | [] => ""
  | [d] => newLine level ++ pretty level d
  | d :: ds => newLine level ++ pretty level d ++ "," ++ prettyItems level ds

/-- The members of a map, each on a line of its own. -/
def prettyMembers (level : Nat) : List (Document × Document) → String
  | [] => ""
  | [(k, d)] => newLine level ++ memberName k ++ ": " ++ pretty level d
  | (k, d) :: ds =>
    newLine level ++ memberName k ++ ": " ++ pretty level d ++ "," ++ prettyMembers level ds

end

/-! ## Reading -/

def skipSpace (s : List Char) : List Char :=
  s.dropWhile fun c => c == ' ' || c == '\t' || c == '\n' || c == '\r'

/-- The value of a hexadecimal digit. -/
def hexValue? (c : Char) : Option Nat :=
  if c.isDigit then some (c.toNat - 48)
  else if 'a' ≤ c ∧ c ≤ 'f' then some (c.toNat - 87)
  else if 'A' ≤ c ∧ c ≤ 'F' then some (c.toNat - 55)
  else none

/-- Four hexadecimal digits. -/
def hexWord? : List Char → Option (Nat × List Char)
  | a :: b :: c :: d :: rest => do
    let a ← hexValue? a
    let b ← hexValue? b
    let c ← hexValue? c
    let d ← hexValue? d
    return (((a * 16 + b) * 16 + c) * 16 + d, rest)
  | _ => none

/-- The character behind a backslash. -/
def unescape? : Char → Option Char
  | '"' => some '"'
  | '\\' => some '\\'
  | '/' => some '/'
  | 'n' => some '\n'
  | 'r' => some '\r'
  | 't' => some '\t'
  | 'b' => some '\x08'
  | 'f' => some '\x0c'
  | _ => none

/-- The character that one or two hexadecimal words behind a backslash and a `u` stand for. -/
def escapedChar? (s : List Char) : Option (Char × List Char) := do
  let (word, rest) ← hexWord? s
  if word < 0xD800 ∨ 0xE000 ≤ word then return (Char.ofNat word, rest)
  if 0xDC00 ≤ word then failure
  match rest with
  | '\\' :: 'u' :: rest =>
    let (low, rest) ← hexWord? rest
    if low < 0xDC00 ∨ 0xE000 ≤ low then failure
    return (Char.ofNat (0x10000 + (word - 0xD800) * 0x400 + (low - 0xDC00)), rest)
  | _ => failure

/-- The rest of a string up to its closing quote. -/
def stringRest? : Nat → List Char → List Char → Option (String × List Char)
  | 0, _, _ => none
  | fuel + 1, read, s =>
    match s with
    | '"' :: rest => some (String.ofList read.reverse, rest)
    | '\\' :: 'u' :: rest =>
      (escapedChar? rest).bind fun (c, rest) => stringRest? fuel (c :: read) rest
    | '\\' :: c :: rest => (unescape? c).bind fun c => stringRest? fuel (c :: read) rest
    | c :: rest => if c.toNat < 32 then none else stringRest? fuel (c :: read) rest
    | [] => none

/-- Whether a text is an integer as JSON writes it. -/
def isCanonicalNat : List Char → Bool
  | [] => false
  | ['0'] => true
  | c :: rest => c != '0' && (c :: rest).all Char.isDigit

/-- The document of a number literal. Negative zero is not an integer. -/
def ofLiteral (literal : List Char) : Document :=
  match literal with
  | '-' :: digits =>
    if isCanonicalNat digits && digits != ['0'] then
      .int (-((String.ofList digits).toNat?.getD 0 : Nat))
    else .decimal (String.ofList literal)
  | digits =>
    if isCanonicalNat digits then .int ((String.ofList digits).toNat?.getD 0 : Nat)
    else .decimal (String.ofList literal)

def isLiteralChar (c : Char) : Bool :=
  c.isDigit || c == '-' || c == '+' || c == '.' || c == 'e' || c == 'E'

def ofMemberName (name : String) : Document :=
  if isCanonicalNat name.toList then .plain name else .text name

mutual

/-- A value at the start of a text. -/
def value? : Nat → List Char → Option (Document × List Char)
  | 0, _ => none
  | fuel + 1, s =>
    match skipSpace s with
    | '\x7b' :: rest =>
      match skipSpace rest with
      | '\x7d' :: rest => some (.map [], rest)
      | rest => members? fuel [] rest
    | '[' :: rest =>
      match skipSpace rest with
      | ']' :: rest => some (.list [], rest)
      | rest => items? fuel [] rest
    | '"' :: rest => (stringRest? (rest.length + 1) [] rest).map fun (t, rest) => (.text t, rest)
    | 't' :: 'r' :: 'u' :: 'e' :: rest => some (.bool true, rest)
    | 'f' :: 'a' :: 'l' :: 's' :: 'e' :: rest => some (.bool false, rest)
    | 'n' :: 'u' :: 'l' :: 'l' :: rest => some (.null, rest)
    | s =>
      let literal := s.takeWhile isLiteralChar
      if literal = [] then none else some (ofLiteral literal, s.dropWhile isLiteralChar)

/-- The items of a list up to its closing bracket. -/
def items? : Nat → List Document → List Char → Option (Document × List Char)
  | 0, _, _ => none
  | fuel + 1, read, s =>
    match value? fuel s with
    | none => none
    | some (d, rest) =>
      match skipSpace rest with
      | ',' :: rest => items? fuel (d :: read) rest
      | ']' :: rest => some (.list (d :: read).reverse, rest)
      | _ => none

/-- The members of a map up to its closing brace. -/
def members? : Nat → List (Document × Document) → List Char → Option (Document × List Char)
  | 0, _, _ => none
  | fuel + 1, read, s =>
    match skipSpace s with
    | '"' :: rest =>
      match stringRest? (rest.length + 1) [] rest with
      | none => none
      | some (name, rest) =>
        match skipSpace rest with
        | ':' :: rest =>
          match value? fuel rest with
          | none => none
          | some (d, rest) =>
            let read := (ofMemberName name, d) :: read
            match skipSpace rest with
            | ',' :: rest => members? fuel read rest
            | '\x7d' :: rest => some (.map read.reverse, rest)
            | _ => none
        | _ => none
    | _ => none

end

/-- Read a text that holds one value. -/
def read? (text : String) : Option Document :=
  let s := text.toList
  match value? (s.length + 1) s with
  | some (d, rest) => if skipSpace rest = [] then some d else none
  | none => none

end VirtualPad.Json
