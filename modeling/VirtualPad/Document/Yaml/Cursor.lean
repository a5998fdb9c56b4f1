import VirtualPad.Document.Place
import VirtualPad.Document.Yaml.Character

/-!
# Cursors

A place in a YAML text together with what is left of the text. Lines and columns carry the structure
of the text, so every step keeps them. `Cursor.toToken` goes on to where the next token begins.
-/

namespace VirtualPad

/-- The place behind a character. -/
def Place.after (p : Place) (c : Char) : Place :=
  if Yaml.isBreak c then ⟨p.line + 1, 0, 0⟩ else ⟨p.line, p.column + 1, p.bytes + c.utf8Size⟩

namespace Yaml

/-- A place in a text and what follows it. -/
structure Cursor where
  place : Place
  rest : List Char
  deriving DecidableEq, Repr

namespace Cursor

def advance (c : Cursor) (n : Nat) : Cursor :=
  ⟨(c.rest.take n).foldl Place.after c.place, c.rest.drop n⟩

/-- Go on over characters of a class. -/
def advanceWhile (c : Cursor) (p : Char → Bool) : Cursor := c.advance (c.rest.takeWhile p).length

/-- Go on to the end of the line if nothing is in the way but blanks and a comment, and otherwise to
what is in the way. -/
def toLineEnd (c : Cursor) : Cursor :=
  let c := c.advanceWhile isBlank
  if c.rest.head? = some '#' then c.advanceWhile (!isBreak ·) else c

def atMarker (c : Cursor) : Bool := c.place.column == 0 && isMarker c.rest

/-- Go on to the next token, over blanks, comments and the ends of lines. Outside of brackets a key
may begin on every new line, and where one may begin, a tab is no blank. A byte order mark at the
beginning of a line takes a column and means nothing. Tells whether a key may begin at the token. -/
def toToken (flow keyAllowed comment : Bool) (p : Place) : List Char → Bool × Cursor
  | [] => (keyAllowed, ⟨p, []⟩)
  | c :: rest =>
    if isBreak c then toToken flow (keyAllowed || !flow) false (p.after c) rest
    else if comment || c == ' ' || (c == '\t' && (flow || !keyAllowed)) ||
        (c == '\ufeff' && p.column == 0) then
      toToken flow keyAllowed comment (p.after c) rest
    else if c == '#' then toToken flow keyAllowed true (p.after c) rest
    else (keyAllowed, ⟨p, c :: rest⟩)

end Cursor

end Yaml

end VirtualPad
