import VirtualPad.Document.Yaml.Cursor
import VirtualPad.Document.Yaml.Fault
import VirtualPad.Document.Yaml.Word

/-!
# Tokens

What a YAML text consists of: scalars, the signs of collections, and the names and tags of nodes.
Collections by indentation have tokens where they begin and end, although nothing is written there.
-/

namespace VirtualPad.Yaml

/-- A part of a YAML text. -/
inductive Token where
  /-- The version that a text says it is written in. -/
  | version (major minor : Nat)
  /-- A handle of tags that a text declares, and what it stands for. -/
  | handle (name meaning : String)
  | documentStart
  | documentEnd
  /-- A list by indentation begins. -/
  | listStart
  /-- A map by indentation begins. -/
  | mapStart
  /-- A collection by indentation ends. -/
  | blockEnd
  | openBracket
  | closeBracket
  | openBrace
  | closeBrace
  | comma
  /-- The dash in front of an item. -/
  | dash
  /-- A key follows, with a question mark in front or without. -/
  | key
  /-- The colon in front of a value. -/
  | value
  /-- The name that the next node gets. -/
  | anchor (name : String)
  /-- A node that got its name before. -/
  | reference (name : String)
  /-- The tag of the next node: its handle, and what stands behind that. -/
  | tag (handle rest : String)
  /-- A scalar without quotes. -/
  | plain (text : String)
  /-- A scalar in quotes, or a folded block. -/
  | text (text : String)
  /-- A literal block. -/
  | literal (text : String)
  | textEnd
  deriving DecidableEq, Repr

/-- A token and where it stands. -/
structure Lexeme where
  token : Token
  start : Place
  /-- The place behind it. -/
  stop : Place
  deriving Repr

namespace Token

/-! ## Names -/

/-- Whether a text can follow the name of a node. -/
def endsName (s : List Char) : Bool :=
  isSpaced s || s.head?.any ['?', ':', ',', ']', '\x7d', '%', '@', '\x60'].contains

/-- The name behind the sign that stands here, and the place behind it. -/
def readName (activity : Activity) (c : Cursor) : Scan (String × Cursor) :=
  let start := c.advance 1
  let name := start.rest.takeWhile isNameChar
  let next := start.advance name.length
  if name = [] || !endsName next.rest then stop .noName next.place activity c.place
  else .ok (String.ofList name, next)

/-! ## Tags -/

/-- The characters of a tag. -/
def isTagChar (c : Char) : Bool :=
  isNameChar c || [';', '/', '?', ':', '@', '&', '=', '+', '$', '.', '%', '!', '~', '*', '\'', '(',
    ')'].contains c

/-- The characters of a tag that is written in full. -/
def isFullTagChar (c : Char) : Bool := isTagChar c || c == ',' || c == '[' || c == ']'

/-- What characters of a tag belong to: what is being read, and where that began. -/
structure TagContext where
  activity : Activity
  start : Place

def TagContext.stop {α : Type} (x : TagContext) (what : Problem) (c : Cursor) : Scan α :=
  Yaml.stop what c.place x.activity x.start

/-- The octet that a percent sign and two hexadecimal digits write here, and the place behind it. -/
def octet (x : TagContext) (c : Cursor) : Scan (Nat × Cursor) :=
  match c.rest with
  | '%' :: d :: e :: _ =>
    match digit? 16 d, digit? 16 e with
    | some d, some e => .ok (16 * d + e, c.advance 3)
    | _, _ => x.stop .noOctet c
  | _ => x.stop .noOctet c

/-- Go on over octets that do not begin a character. Adds their bits to a number. -/
def innerOctets (x : TagContext) : Nat → Nat → Cursor → Scan (Nat × Cursor)
  | 0, code, c => .ok (code, c)
  | n + 1, code, c => do
    let (octet, next) ← octet x c
    if octet / 64 = 2 then innerOctets x n (64 * code + octet % 64) next
    else x.stop .furtherOctet c

/-- The character that octets write here, and the place behind them. -/
def escaped (x : TagContext) (c : Cursor) : Scan (Char × Cursor) := do
  let (octet, next) ← octet x c
  let (code, next) ←
    if octet < 128 then .ok (octet, next)
    else if octet / 32 = 6 then innerOctets x 1 (octet % 32) next
    else if octet / 16 = 14 then innerOctets x 2 (octet % 16) next
    else if octet / 8 = 30 then innerOctets x 3 (octet % 8) next
    else x.stop .firstOctet c
  return (if 128 ≤ octet && code < 128 then '\ufffd' else Char.ofNat code, next)

/-- The characters of a tag that stand here, with those that octets write, and the place behind
them. What was read before is given in reverse. -/
def tagCharsFrom (x : TagContext) (p : Char → Bool) :
    Nat → List Char → Cursor → Scan (String × Cursor)
  | 0, read, c => .ok (String.ofList read.reverse, c)
  | fuel + 1, read, c =>
    match c.rest with
    | [] => .ok (String.ofList read.reverse, c)
    | d :: _ =>
      if d = '%' then do
        let (e, next) ← escaped x c
        tagCharsFrom x p fuel (e :: read) next
      else if p d then tagCharsFrom x p fuel (d :: read) (c.advance 1)
      else .ok (String.ofList read.reverse, c)

/-- The characters of a tag that stand here, and the place behind them. -/
def tagChars (x : TagContext) (p : Char → Bool) (c : Cursor) : Scan (String × Cursor) :=
  tagCharsFrom x p (c.rest.length + 1) [] c

/-- The characters of a tag that stand here, of which there have to be some. -/
def someTagChars (x : TagContext) (p : Char → Bool) (c : Cursor) : Scan (String × Cursor) :=
  if c.rest.head?.any p then tagChars x p c else x.stop .noTag c

/-- The tag that begins here, and the place behind it. A tag written in full, and an exclamation
mark that stands alone, have the empty handle. -/
def readTag (flow : Bool) (c : Cursor) : Scan (Token × Cursor) := do
  let x : TagContext := ⟨.tagCharacters, c.place⟩
  let (t, next) ←
    match c.rest with
    | '!' :: '<' :: _ => do
      let (suffix, next) ← someTagChars x isFullTagChar (c.advance 2)
      if next.rest.head? = some '>' then .ok (Token.tag "" suffix, next.advance 1)
      else stop .noAngleBracket next.place .tag c.place
    | _ => do
      let word := (c.rest.drop 1).takeWhile isNameChar
      let next := c.advance (word.length + 1)
      if next.rest.head? = some '!' then
        let (suffix, next) ← someTagChars x isTagChar (next.advance 1)
        .ok (Token.tag (String.ofList (['!'] ++ word ++ ['!'])) suffix, next)
      else
        let (suffix, next) ← tagChars x isTagChar (c.advance 1)
        .ok (if suffix = "" then Token.tag "" "!" else Token.tag "!" suffix, next)
  if isSpaced next.rest || (flow && next.rest.head? = some ',') then .ok (t, next)
  else stop .noGap next.place .tag c.place

/-! ## Directives -/

/-- A number of at most nine digits, and the place behind it. -/
def readNumber (start : Place) (c : Cursor) : Scan (Nat × Cursor) :=
  let digits := c.rest.takeWhile Char.isDigit
  if digits = [] then stop .noVersion c.place .versionDirective start
  else if 9 < digits.length then stop .longVersion (c.advance 9).place .versionDirective start
  else .ok (digits.foldl (fun n d => 10 * n + (d.toNat - 48)) 0, c.advance digits.length)

def readVersion (start : Place) (c : Cursor) : Scan (Token × Cursor) := do
  let (major, c) ← readNumber start c
  if c.rest.head? = some '.' then
    let (minor, c) ← readNumber start (c.advance 1)
    return (.version major minor, c)
  else stop .noVersionSign c.place .versionDirective start

/-- The handle that a directive declares here, and the place behind it. -/
def declaredHandle (start : Place) (c : Cursor) : Scan (String × Cursor) :=
  let word := (c.rest.drop 1).takeWhile isNameChar
  let next := c.advance (word.length + 1)
  if c.rest.head? ≠ some '!' then stop .noExclamationMark c.place .declaredHandle start
  else if next.rest.head? = some '!' then
    .ok (String.ofList (['!'] ++ word ++ ['!']), next.advance 1)
  else if word = [] then .ok ("!", next)
  else stop .noExclamationMark next.place .declaredHandleRest start

/-- The declaration of a handle that stands here: the handle, and what it stands for. -/
def readHandle (start : Place) (c : Cursor) : Scan (Token × Cursor) := do
  let (name, next) ← declaredHandle start c
  if next.rest.head?.any isBlank then
    let (meaning, next) ←
      someTagChars ⟨.declaredMeaning, start⟩ isFullTagChar (next.advanceWhile isBlank)
    if isSpaced next.rest then return (.handle name meaning, next)
    else stop .noGap next.place .handleDirective start
  else stop .noBlank next.place .handleDirective start

/-- The directive whose percent sign stands here. It takes a line of its own with its end. -/
def readDirective (c : Cursor) : Scan (Token × Cursor) := do
  let word := (c.rest.drop 1).takeWhile isNameChar
  let next := c.advance (word.length + 1)
  if word = [] then stop .noDirectiveName next.place .directive c.place
  else if !isSpaced next.rest then stop .directiveNameEnd next.place .directive c.place
  else
    let (t, next) ←
      match String.ofList word with
      | "YAML" => readVersion c.place (next.advanceWhile isBlank)
      | "TAG" => readHandle c.place (next.advanceWhile isBlank)
      | _ => stop .unknownDirective next.place .directive c.place
    let next := next.toLineEnd
    if next.rest.head?.all isBreak then return (t, next.advance 1)
    else stop .noLineEnd next.place .directive c.place

end Token

end VirtualPad.Yaml
