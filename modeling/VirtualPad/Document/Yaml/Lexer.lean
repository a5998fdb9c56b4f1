import VirtualPad.Document.Yaml.Scalar
import VirtualPad.Document.Yaml.Token

/-!
# Tokens of a text

`Lexed.ofText` cuts a YAML text into tokens. That a scalar or a collection in brackets is a key
shows only at the colon behind it: the place where a key may have begun is remembered, and the colon
puts the tokens of the key, and of the map that begins with it, there. Such a key stands on one line
and has at most 1024 bytes.

A token is settled when nothing can be put in front of it any more. Where the text cannot be cut on,
the tokens that are settled by then can be read, and those behind them cannot.
-/

namespace VirtualPad.Yaml

/-- A place where a key may have begun. -/
structure KeyStart where
  /-- How many tokens stand in front of it. -/
  position : Nat
  place : Place
  /-- Whether nothing but a key can stand there. -/
  required : Bool
  deriving Repr

namespace KeyStart

/-- Whether what began there is too far away to be a key. -/
def isStale (k : KeyStart) (p : Place) : Bool :=
  k.place.line < p.line || k.place.bytes + 1024 < p.bytes

/-- Stop because there is no colon behind a key. -/
def missed {α : Type} (k : KeyStart) (p : Place) : Scan α := stop .noColon p .simpleKey k.place

end KeyStart

/-- A text that has been cut into tokens up to some place. -/
structure Lexer where
  cursor : Cursor
  tokens : Array Lexeme := #[]
  /-- The columns of the collections by indentation that are open, the innermost first. -/
  columns : List Nat := []
  /-- Whether a key may begin here. -/
  keyAllowed : Bool := true
  /-- Where a key may have begun. -/
  key : Option KeyStart := none
  /-- The same for what is around each pair of brackets that is open. -/
  outerKeys : List (Option KeyStart) := []
  /-- Whether the end of the text is among the tokens. -/
  finished : Bool := false

namespace Lexer

/-- Where the next token begins. -/
def place (l : Lexer) : Place := l.cursor.place

/-- Whether the place is between brackets. -/
def inFlow (l : Lexer) : Bool := !l.outerKeys.isEmpty

def column (l : Lexer) : Nat := l.place.column

/-- The least column of what belongs to the innermost collection by indentation. -/
def least (l : Lexer) : Nat :=
  match l.columns with
  | [] => 0
  | c :: _ => c + 1

def settled (l : Lexer) : List Lexeme :=
  let count := (l.key :: l.outerKeys).foldl
    (fun n key => match key with
      | some k => min n k.position
      | none => n) l.tokens.size
  l.tokens.toList.take count

def add (l : Lexer) (t : Token) (next : Cursor) : Lexer :=
  { l with tokens := l.tokens.push ⟨t, l.place, next.place⟩, cursor := next }

/-- Add a token that is written with some characters. -/
def sign (l : Lexer) (t : Token) (width : Nat) : Lexer := l.add t (l.cursor.advance width)

/-- Put a token of no width in front of the token at a position. -/
def insert (l : Lexer) (position : Nat) (t : Token) (p : Place) : Lexer :=
  { l with tokens := l.tokens.insertIdxIfInBounds position ⟨t, p, p⟩ }

/-! ## Keys -/

/-- What may have been a key is none. -/
def dropKey (l : Lexer) : Scan Lexer :=
  match l.key.filter (·.required) with
  | some k => k.missed l.place
  | none => .ok { l with key := none }

/-- Remember that a key may begin here. -/
def markKey (l : Lexer) : Scan Lexer :=
  if l.keyAllowed then do
    let l ← l.dropKey
    let required := !l.inFlow && l.columns.head? == some l.column
    return { l with key := some { position := l.tokens.size, place := l.place, required } }
  else .ok l

def dropStaleKeys (l : Lexer) : Scan Lexer :=
  let stale (k : KeyStart) : Bool := k.isStale l.place
  match ((l.key :: l.outerKeys).filterMap id).find? fun k => k.required && stale k with
  | some k => k.missed l.place
  | none =>
    let fresh (k : Option KeyStart) : Option KeyStart := k.filter (!stale ·)
    .ok { l with key := fresh l.key, outerKeys := l.outerKeys.map fresh }

/-! ## Collections by indentation -/

/-- A collection begins at a place, unless it is open already. Its token gets a position. -/
def openBlock (l : Lexer) (p : Place) (position : Nat) (t : Token) : Lexer :=
  if l.inFlow || l.columns.head?.any (p.column ≤ ·) then l
  else { l with columns := p.column :: l.columns }.insert position t p

/-- The collections that begin at some columns end. -/
def closeBlocks (l : Lexer) (ends : Nat → Bool) : Lexer :=
  if l.inFlow then l
  else
    let closed := l.columns.takeWhile ends
    { l with
      columns := l.columns.drop closed.length
      tokens := closed.foldl (fun ts _ => ts.push ⟨.blockEnd, l.place, l.place⟩) l.tokens }

/-! ## One token -/

/-- A mark of a document's start or end, or a directive: all collections end. -/
def documentSign (l : Lexer) (read : Scan (Token × Cursor)) : Scan Lexer := do
  let l ← (l.closeBlocks fun _ => true).dropKey
  let (t, next) ← read
  return { l with keyAllowed := false }.add t next

def openFlow (l : Lexer) (t : Token) : Scan Lexer := do
  let l ← l.markKey
  return { l with outerKeys := l.key :: l.outerKeys, key := none, keyAllowed := true }.sign t 1

def closeFlow (l : Lexer) (t : Token) : Scan Lexer := do
  let l ← l.dropKey
  let l := { l with keyAllowed := false }.sign t 1
  match l.outerKeys with
  | [] => return l
  | k :: ks => return { l with key := k, outerKeys := ks }

def comma (l : Lexer) : Scan Lexer := do
  let l ← l.dropKey
  return { l with keyAllowed := true }.sign .comma 1

/-- Stop at a sign that stands where no key may begin. -/
def stray {α : Type} (l : Lexer) (what : Problem) : Scan α := .error (.problem what l.place none)

/-- The dash of an item. Outside of brackets it stands where a key may begin. -/
def dash (l : Lexer) : Scan Lexer :=
  if !l.inFlow && !l.keyAllowed then l.stray .strayDash
  else do
    let l ← (l.openBlock l.place l.tokens.size .listStart).dropKey
    return { l with keyAllowed := true }.sign .dash 1

/-- A question mark in front of a key. -/
def questionMark (l : Lexer) : Scan Lexer :=
  if !l.inFlow && !l.keyAllowed then l.stray .strayKey
  else do
    let l ← (l.openBlock l.place l.tokens.size .mapStart).dropKey
    return { l with keyAllowed := !l.inFlow }.sign .key 1

/-- A colon in front of a value. What may have been a key is one. -/
def colon (l : Lexer) : Scan Lexer :=
  match l.key with
  | some k =>
    let l := { l with key := none }.insert k.position .key k.place
    let l := l.openBlock k.place k.position .mapStart
    .ok ({ l with keyAllowed := false }.sign .value 1)
  | none =>
    if !l.inFlow && !l.keyAllowed then l.stray .strayValue
    else
      let l := l.openBlock l.place l.tokens.size .mapStart
      .ok ({ l with keyAllowed := !l.inFlow }.sign .value 1)

/-- The name or the tag of a node. -/
def property (l : Lexer) (read : Scan (Token × Cursor)) : Scan Lexer := do
  let l ← l.markKey
  let (t, next) ← read
  return { l with keyAllowed := false }.add t next

def name (l : Lexer) (t : String → Token) (activity : Activity) : Scan Lexer :=
  l.property do
    let (name, next) ← Token.readName activity l.cursor
    return (t name, next)

/-- A scalar that may be a key. A key may begin behind it if a line has ended in between. -/
def scalar (l : Lexer) (t : String → Token) (read : Scan Scalar) : Scan Lexer := do
  let l ← l.markKey
  let s ← read
  return { l with keyAllowed := s.crossed }.add (t s.text) s.stop

def block (l : Lexer) (folded : Bool) : Scan Lexer := do
  let l ← l.dropKey
  let s ← Yaml.block folded l.least l.cursor
  return { l with keyAllowed := true }.add (if folded then .text s.text else .literal s.text) s.stop

/-- The token whose first character is given and followed by a text. -/
def token (l : Lexer) (first : Char) (rest : List Char) : Scan Lexer :=
  let isSign := l.inFlow || isSpaced rest
  if l.column = 0 && first = '%' then l.documentSign (Token.readDirective l.cursor)
  else if l.cursor.atMarker then
    let t := if first = '-' then .documentStart else .documentEnd
    l.documentSign (.ok (t, l.cursor.advance 3))
  else
    match first with
    | '[' => l.openFlow .openBracket
    | '\x7b' => l.openFlow .openBrace
    | ']' => l.closeFlow .closeBracket
    | '\x7d' => l.closeFlow .closeBrace
    | ',' => l.comma
    | '*' => l.name .reference .reference
    | '&' => l.name .anchor .anchor
    | '!' => l.property (Token.readTag l.inFlow l.cursor)
    | '\'' => l.scalar .text (single l.cursor)
    | '"' => l.scalar .text (double l.cursor)
    | c =>
      if c = '-' && isSpaced rest then l.dash
      else if c = '?' && isSign then l.questionMark
      else if c = ':' && isSign then l.colon
      else if c = '|' && !l.inFlow then l.block false
      else if c = '>' && !l.inFlow then l.block true
      else if startsPlain l.inFlow (c :: rest) then
        l.scalar .plain (plain l.inFlow l.least l.cursor)
      else stop .strayCharacter l.place .token l.place

/-- The end of the text, which stands on a line of its own. All collections end. -/
def finish (l : Lexer) : Scan Lexer := do
  let p := if l.column = 0 then l.place else { line := l.place.line + 1 }
  let l ← ({ l with cursor := ⟨p, []⟩ }.closeBlocks fun _ => true).dropKey
  return { l with keyAllowed := false, finished := true }.sign .textEnd 0

/-- Go on to the next token. Collections that it stands left of end. -/
def toToken (l : Lexer) : Scan Lexer := do
  let (keyAllowed, cursor) :=
    Cursor.toToken l.inFlow l.keyAllowed false l.cursor.place l.cursor.rest
  let l ← { l with cursor, keyAllowed }.dropStaleKeys
  return l.closeBlocks (l.column < ·)

/-- Add the next token. -/
def step (l : Lexer) : Scan Lexer := do
  let l ← l.toToken
  let l ←
    match l.cursor.rest with
    | [] => l.finish
    | first :: rest => l.token first rest
  l.dropStaleKeys

end Lexer

/-! ## Texts -/

/-- The tokens of a text, and what stops who reads on behind them. -/
structure Lexed where
  tokens : List Lexeme
  stop : SyntaxFault
  deriving Repr

/-- Cut a text into tokens, as far as possible. Nobody reads on behind the end of the text. -/
def Lexer.run : Nat → Lexer → Lexed
  | 0, l => ⟨l.settled, .problem .textEnd l.place none⟩
  | fuel + 1, l =>
    if l.finished then ⟨l.settled, .problem .textEnd l.place none⟩
    else
      match l.step with
      | .error fault => ⟨l.settled, fault⟩
      | .ok l => Lexer.run fuel l

/-- Make a line feed of a carriage return, a next-line character, and a carriage return with a line
feed. The other ends of lines are kept. -/
def unifyBreaks : List Char → List Char
  | [] => []
  | '\r' :: '\n' :: rest => '\n' :: unifyBreaks rest
  | c :: rest => (if c == '\r' || c == '\u0085' then '\n' else c) :: unifyBreaks rest

/-- How many bytes stand in front of the first character that no text may hold. -/
def forbiddenOffset? (s : List Char) : Option Nat :=
  if s.all isAllowed then none
  else some ((s.takeWhile isAllowed).foldl (fun n c => n + c.utf8Size) 0)

/-- The tokens of a text. -/
def Lexed.ofText (text : String) : Lexed :=
  let s := text.toList
  match forbiddenOffset? s with
  | some offset => ⟨[], .forbidden offset⟩
  | none =>
    let s := unifyBreaks s
    Lexer.run (s.length + 2) { cursor := ⟨{}, s⟩ }

end VirtualPad.Yaml
