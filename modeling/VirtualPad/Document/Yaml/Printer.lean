import VirtualPad.Document.Basic
import VirtualPad.Document.Yaml.Character
import VirtualPad.Document.Yaml.Word

/-!
# YAML as it is written

Documents printed as YAML: maps and lists by indentation, lists at the column of their key. A text
is plain where it would be read as that text, and otherwise in single quotes; a text of several
lines is a literal block; what neither can hold is in double quotes. A key that is too long, or goes
over several lines, has a question mark in front and a line of its own.
-/

namespace VirtualPad.Yaml

/-! ## The style of a text -/

inductive Style where
  | plain | single | double | literal
  deriving DecidableEq, Repr

/-- Whether the beginning of a text means something. -/
def leadsAstray : List Char → Bool
  | [] => false
  | c :: rest =>
    indicators.contains c || ((c == '?' || c == ':' || c == '-') && isSpaced rest) ||
      ['-', '-', '-'].isPrefixOf (c :: rest) || ['.', '.', '.'].isPrefixOf (c :: rest)

/-- Whether a text holds a colon in front of a gap, or a hash behind one. -/
def holdsIndicator (afterGap : Bool) : List Char → Bool
  | [] => false
  | c :: rest =>
    (c == ':' && isSpaced rest) || (c == '#' && afterGap) ||
      holdsIndicator (isBlank c || isBreak c) rest

/-- Whether some character satisfies one condition and the next one another. -/
def hasPair (p q : Char → Bool) : List Char → Bool
  | a :: b :: rest => (p a && q b) || hasPair p q (b :: rest)
  | _ => false

/-- Whether a text stands without quotes. -/
def allowsPlain (s : List Char) : Bool :=
  !leadsAstray s && !holdsIndicator false s && !s.any isBreak && s.all isPrintable &&
    s.head? != some ' ' && s.getLast? != some ' '

def allowsSingle (s : List Char) : Bool :=
  s.all isPrintable && !hasPair (· == ' ') isBreak s && !hasPair isBreak (· == ' ') s

def allowsLiteral (s : List Char) : Bool :=
  s.all isPrintable && !hasPair (· == ' ') isBreak s && s.getLast? != some ' '

def styleOf (text : String) : Style :=
  let s := text.toList
  if s.contains '\n' then if allowsLiteral s then .literal else .double
  else if !isAmbiguous text && allowsPlain s then .plain
  else if allowsSingle s then .single
  else .double

/-! ## Texts -/

/-- The blanks of an indent. -/
def margin (indent : Nat) : List Char := List.replicate indent ' '

/-- A text inside single quotes. Each quote is doubled, and so is the first of several ends of lines
in a row if it is a line feed. -/
def singleBody (indent : Nat) (afterBreak : Bool) : List Char → List Char
  | [] => if afterBreak then margin indent else []
  | c :: rest =>
    if isBreak c then
      (if c == '\n' && !afterBreak then [c, c] else [c]) ++ singleBody indent true rest
    else
      (if afterBreak then margin indent else []) ++ (if c == '\'' then [c, c] else [c]) ++
        singleBody indent false rest

/-- A hexadecimal digit in capital letters. -/
def highHexDigit (n : Nat) : Char := if n < 10 then Char.ofNat (48 + n) else Char.ofNat (55 + n)

/-- The last hexadecimal digits of a number. -/
def hexText (width n : Nat) : List Char :=
  (List.range width).reverse.map fun i => highHexDigit (n >>> (4 * i) % 16)

/-- The letter behind the backslash, for characters that have one. -/
def escapeLetter? (c : Char) : Option Char :=
  [('\x00', '0'), ('\x07', 'a'), ('\x08', 'b'), ('\t', 't'), ('\n', 'n'), ('\x0b', 'v'),
    ('\x0c', 'f'), ('\r', 'r'), ('\x1b', 'e'), ('"', '"'), ('\\', '\\'), ('\u0085', 'N'),
    ('\u2028', 'L'), ('\u2029', 'P')].lookup c

/-- A character inside double quotes. -/
def doubleChar (c : Char) : List Char :=
  match escapeLetter? c with
  | some letter => ['\\', letter]
  | none =>
    if isPrintable c then [c]
    else if c.toNat ≤ 0xFF then '\\' :: 'x' :: hexText 2 c.toNat
    else if c.toNat ≤ 0xFFFF then '\\' :: 'u' :: hexText 4 c.toNat
    else '\\' :: 'U' :: hexText 8 c.toNat

/-- The signs behind the bar of a literal block: the indent where the text begins with a blank, and
what happens to the ends of lines at its end. -/
def literalSigns (s : List Char) : List Char :=
  let depth := if s.head?.any fun c => c == ' ' || isBreak c then ['2'] else []
  let chomp :=
    match s.reverse with
    | [] => ['-']
    | [c] => if isBreak c then ['+'] else ['-']
    | c :: d :: _ => if !isBreak c then ['-'] else if isBreak d then ['+'] else []
  depth ++ chomp

/-- The lines of a literal block. Empty ones have no indent. -/
def literalBody (indent : Nat) (afterBreak : Bool) : List Char → List Char
  | [] => []
  | c :: rest =>
    if isBreak c then c :: literalBody indent true rest
    else (if afterBreak then margin indent else []) ++ c :: literalBody indent false rest

/-- A text in the style that suits it. Further lines of it are indented. -/
def textScalar (indent : Nat) (text : String) : List Char :=
  let s := text.toList
  match styleOf text with
  | .plain => s
  | .single => '\'' :: singleBody indent false s ++ ['\'']
  | .double => '"' :: s.flatMap doubleChar ++ ['"']
  | .literal => '|' :: literalSigns s ++ '\n' :: literalBody indent true s

/-! ## Documents -/

/-- A scalar, or a collection with nothing in it. -/
def scalarText (indent : Nat) : Document → List Char
  | .null => "null".toList
  | .bool b => (if b then "true" else "false").toList
  | .int i => (toString i).toList
  | .decimal l => l.toList
  | .text s => textScalar indent s
  | .plain w => w.toList
  | .list _ => "[]".toList
  | .map _ => "\x7b\x7d".toList

/-- A scalar up to the end of its line. A block may have brought that already. -/
def scalarLine (indent : Nat) (d : Document) : List Char :=
  let s := scalarText indent d
  if s.getLast?.any isBreak then s else s ++ ['\n']

/-- The most bytes of a key that has no question mark. -/
def keyLimit : Nat := 128

/-- Whether a key stands in front of its value without a question mark. -/
def isShortKey : Document → Bool
  | .text s => !s.toList.any isBreak && s.utf8ByteSize ≤ keyLimit
  | .decimal l => l.utf8ByteSize ≤ keyLimit
  | .plain w => w.utf8ByteSize ≤ keyLimit
  | .list (_ :: _) => false
  | .map (_ :: _) => false
  | _ => true

mutual

/-- What follows the colon of a short key at an indent. -/
def memberText (indent : Nat) : Document → List Char
  | .map (m :: ms) => '\n' :: margin (indent + 2) ++ membersText (indent + 2) (m :: ms)
  | .list (d :: ds) => '\n' :: margin indent ++ itemsText indent (d :: ds)
  | d => ' ' :: scalarLine (indent + 2) d

/-- What follows a dash, a question mark or the colon of a long key at an indent. -/
def itemText (indent : Nat) : Document → List Char
  | .map (m :: ms) => membersText (indent + 2) (m :: ms)
  | .list (d :: ds) => itemsText (indent + 2) (d :: ds)
  | d => scalarLine (indent + 2) d

/-- The members of a map, where the indent of the first is there already. -/
def membersText (indent : Nat) : List (Document × Document) → List Char
  | [] => []
  | (k, d) :: ms =>
    (if isShortKey k then scalarText (indent + 2) k ++ ':' :: memberText indent d
      else
        '?' :: ' ' :: itemText indent k ++ margin indent ++ ':' :: ' ' :: itemText indent d) ++
      match ms with
      | [] => []
      | m :: ms => margin indent ++ membersText indent (m :: ms)

/-- The items of a list, where the indent of the first is there already. -/
def itemsText (indent : Nat) : List Document → List Char
  | [] => []
  | d :: ds =>
    '-' :: ' ' :: itemText indent d ++
      match ds with
      | [] => []
      | d :: ds => margin indent ++ itemsText indent (d :: ds)

end

def print (d : Document) : String :=
  String.ofList <|
    match d with
    | .map (m :: ms) => membersText 0 (m :: ms)
    | .list (d :: ds) => itemsText 0 (d :: ds)
    | d => scalarLine 2 d

end VirtualPad.Yaml
