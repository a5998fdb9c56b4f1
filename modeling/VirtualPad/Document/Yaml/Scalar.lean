import VirtualPad.Document.Yaml.Cursor
import VirtualPad.Document.Yaml.Fault
import VirtualPad.Document.Yaml.Word

/-!
# Scalars

The scalars of a YAML text: plain, in single quotes, in double quotes, and blocks. A scalar that
goes on over several lines is folded: the end of a line between two words is a blank, and each empty
line is the end of a line.

All readers expect that a carriage return, a next-line character and their combination with a line
feed have become line feeds.
-/

namespace VirtualPad.Yaml

structure Scalar where
  text : String
  /-- The place behind the scalar. -/
  stop : Cursor
  /-- Whether the end of a line stands between the scalar and that place. -/
  crossed : Bool := false

/-! ## Folding -/

/-- What stands between two words of a scalar. -/
structure Space where
  /-- The blanks before the first end of a line, in reverse. -/
  blanks : List Char := []
  /-- The ends of lines, in reverse. -/
  breaks : List Char := []
  /-- Whether an end of a line that does not count came first. -/
  escaped : Bool := false
  deriving Repr

namespace Space

/-- Whether a line has ended. -/
def crossed (s : Space) : Bool := s.escaped || !s.breaks.isEmpty

def isNone (s : Space) : Bool := s.blanks.isEmpty && !s.crossed

/-- Add a blank. Blanks at the beginning of a line do not count. -/
def addBlank (s : Space) (c : Char) : Space :=
  if s.crossed then s else { s with blanks := c :: s.blanks }

/-- Add the end of a line. -/
def addBreak (s : Space) (c : Char) : Space := { s with blanks := [], breaks := c :: s.breaks }

/-- Put what the space folds to behind a text, both in reverse. Only a line feed folds. -/
def fold (s : Space) (text : List Char) : List Char :=
  if s.escaped then s.breaks ++ text
  else
    match s.breaks.reverse with
    | [] => s.blanks ++ text
    | ['\n'] => ' ' :: text
    | '\n' :: rest => rest.reverse ++ text
    | _ => s.breaks ++ text

end Space

/-! ## Plain scalars -/

/-- Whether a plain scalar can begin here. -/
def startsPlain (flow : Bool) : List Char → Bool
  | [] => false
  | '-' :: rest => !isSpaced rest
  | '?' :: rest => !flow && !isSpaced rest
  | ':' :: rest => !flow && !isSpaced rest
  | c :: _ => !indicators.contains c && !isBlank c && !isBreak c

/-- Whether a plain scalar ends in front of a text. -/
def endsPlain (flow : Bool) : List Char → Bool
  | [] => true
  | ':' :: rest => isSpaced rest
  | c :: _ => flow && flowIndicators.contains c

/-- Whether a colon stands where none may stand between brackets. -/
def isStrayColon : List Char → Bool
  | ':' :: c :: _ => c == '?' || flowIndicators.contains c
  | _ => false

/-- The rest of a plain scalar that began somewhere. Outside of brackets its further lines stand no
further left than the least column. -/
def plainRest (flow : Bool) (least : Nat) (start : Place) (text : List Char) (space : Space)
    (p : Place) : List Char → Scan Scalar
  | [] => .ok ⟨String.ofList text.reverse, ⟨p, []⟩, space.crossed⟩
  | c :: rest =>
    if isBreak c then plainRest flow least start text (space.addBreak c) (p.after c) rest
    else if isBlank c then
      if c == '\t' && space.crossed && p.column < least then stop .tabBelowIndent p .plain start
      else plainRest flow least start text (space.addBlank c) (p.after c) rest
    else if (!space.isNone && (c == '#' || (p.column == 0 && isMarker (c :: rest)))) ||
        (space.crossed && !flow && p.column < least) then
      .ok ⟨String.ofList text.reverse, ⟨p, c :: rest⟩, space.crossed⟩
    else if flow && isStrayColon (c :: rest) then stop .strayColon p .plain start
    else if endsPlain flow (c :: rest) then
      .ok ⟨String.ofList text.reverse, ⟨p, c :: rest⟩, space.crossed⟩
    else plainRest flow least start (c :: space.fold text) {} (p.after c) rest

/-- The plain scalar that begins here. -/
def plain (flow : Bool) (least : Nat) (c : Cursor) : Scan Scalar :=
  plainRest flow least c.place [] {} c.place c.rest

/-! ## Scalars in quotes -/

/-- The rest of a scalar in single quotes that began somewhere, where a doubled quote stands for
one. -/
def singleRest (start : Place) (text : List Char) (space : Space) (p : Place) :
    List Char → Scan Scalar
  | [] => stop .textEnd p .quotes start
  | '\'' :: '\'' :: rest =>
    singleRest start ('\'' :: space.fold text) {} ((p.after '\'').after '\'') rest
  | c :: rest =>
    if p.column == 0 && isMarker (c :: rest) then stop .marker p .quotes start
    else if c == '\'' then
      .ok ⟨String.ofList (space.fold text).reverse, ⟨p.after c, rest⟩, false⟩
    else if isBreak c then singleRest start text (space.addBreak c) (p.after c) rest
    else if isBlank c then singleRest start text (space.addBlank c) (p.after c) rest
    else singleRest start (c :: space.fold text) {} (p.after c) rest

/-- The character that a letter behind a backslash stands for. -/
def unescape? (c : Char) : Option Char :=
  [('0', '\x00'), ('a', '\x07'), ('b', '\x08'), ('t', '\t'), ('\t', '\t'), ('n', '\n'),
    ('v', '\x0b'), ('f', '\x0c'), ('r', '\r'), ('e', '\x1b'), (' ', ' '), ('"', '"'), ('/', '/'),
    ('\\', '\\'), ('N', '\u0085'), ('_', '\u00a0'), ('L', '\u2028'), ('P', '\u2029')].lookup c

/-- How many hexadecimal digits follow a letter behind a backslash. -/
def escapeWidth? (c : Char) : Option Nat := [('x', 2), ('u', 4), ('U', 8)].lookup c

def charOfCode? (code : Nat) : Option Char :=
  if h : code.isValidChar then some (Char.ofNatAux code h) else none

/-- How much of an escape has been read. -/
inductive Escape where
  | none
  /-- A backslash, which stands at a place. -/
  | backslash (place : Place)
  /-- A code of which some digits are missing. The first one stands at a place. -/
  | code (place : Place) (missing value : Nat)
  deriving DecidableEq, Repr

/-- The fault of a scalar in double quotes whose text ends. -/
def Escape.atEnd (start p : Place) : Escape → SyntaxFault
  | .none => .problem .textEnd p (some (.quotes, start))
  | .backslash place => .problem .unknownEscape place (some (.escape, start))
  | .code place _ _ => .problem .noHexDigit place (some (.escape, start))

/-- The rest of a scalar in double quotes that began somewhere, where a backslash announces a
character or an end of a line that does not count. -/
def doubleRest (start : Place) (text : List Char) (space : Space) (escape : Escape) (p : Place) :
    List Char → Scan Scalar
  | [] => .error (escape.atEnd start p)
  | c :: rest =>
    match escape with
    | .backslash place =>
      if isBreak c then doubleRest start text { escaped := true } .none (p.after c) rest
      else
        match escapeWidth? c, unescape? c with
        | some width, _ =>
          doubleRest start text {} (.code (p.after c) width 0) (p.after c) rest
        | none, some d => doubleRest start (d :: text) {} .none (p.after c) rest
        | none, none => stop .unknownEscape place .escape start
    | .code place missing value =>
      match digit? 16 c with
      | none => stop .noHexDigit place .escape start
      | some d =>
        if 1 < missing then
          doubleRest start text {} (.code place (missing - 1) (16 * value + d)) (p.after c) rest
        else
          match charOfCode? (16 * value + d) with
          | none => stop .noCharacter place .escape start
          | some e => doubleRest start (e :: text) {} .none (p.after c) rest
    | .none =>
      if p.column == 0 && isMarker (c :: rest) then stop .marker p .quotes start
      else if c == '"' then
        .ok ⟨String.ofList (space.fold text).reverse, ⟨p.after c, rest⟩, false⟩
      else if c == '\\' then
        doubleRest start (space.fold text) {} (.backslash p) (p.after c) rest
      else if isBreak c then doubleRest start text (space.addBreak c) .none (p.after c) rest
      else if isBlank c then doubleRest start text (space.addBlank c) .none (p.after c) rest
      else doubleRest start (c :: space.fold text) {} .none (p.after c) rest

/-- The scalar whose single quote stands here. -/
def single (c : Cursor) : Scan Scalar :=
  let text := c.advance 1
  singleRest c.place [] {} text.place text.rest

/-- The scalar whose double quote stands here. -/
def double (c : Cursor) : Scan Scalar :=
  let text := c.advance 1
  doubleRest c.place [] {} .none text.place text.rest

/-! ## Blocks -/

/-- What happens to the ends of lines at the end of a block: one is kept, none, or all. -/
inductive Chomp where
  | clip | strip | keep
  deriving DecidableEq, Repr

def Chomp.ofSign? (c : Char) : Option Chomp := [('-', Chomp.strip), ('+', Chomp.keep)].lookup c

/-- The signs behind the bar of a block. -/
structure BlockSigns where
  chomp : Chomp := .clip
  /-- The depth of the indent. -/
  depth : Option Nat := none
  deriving DecidableEq, Repr

/-- The sign of a chomping, if one stands here, and the place behind it. -/
def chompSign? (c : Cursor) : Option Chomp × Cursor :=
  match c.rest.head?.bind Chomp.ofSign? with
  | some chomp => (some chomp, c.advance 1)
  | none => (none, c)

/-- The digit of a depth, if one stands here, and the place behind it. It is not zero. -/
def depthSign? (start : Place) (c : Cursor) : Scan (Option Nat × Cursor) :=
  match c.rest.head? with
  | some '0' => stop .zeroDepth c.place .block start
  | some d => .ok (if d.isDigit then (some (d.toNat - 48), c.advance 1) else (none, c))
  | none => .ok (none, c)

/-- The signs that stand here, in either order, and the place behind them. -/
def blockSigns (start : Place) (c : Cursor) : Scan (BlockSigns × Cursor) := do
  match chompSign? c with
  | (some chomp, c) =>
    let (depth, c) ← depthSign? start c
    return ({ chomp, depth }, c)
  | (none, c) =>
    match ← depthSign? start c with
    | (some depth, c) =>
      let (chomp, c) := chompSign? c
      return ({ chomp := chomp.getD .clip, depth := some depth }, c)
    | (none, c) => return ({}, c)

structure Line where
  text : List Char
  stop : Option Char
  deriving Repr

/-- The first line of a text, and what follows it. -/
def firstLine (s : List Char) : Line × List Char :=
  let text := s.takeWhile (!isBreak ·)
  let rest := s.drop text.length
  (⟨text, rest.head?⟩, rest.tail)

theorem length_firstLine_lt {s : List Char} (h : (firstLine s).1.stop.isSome = true) :
    (firstLine s).2.length < s.length := by
  have h' : s.drop (s.takeWhile (!isBreak ·)).length ≠ [] := by
    intro hn
    simp [firstLine, hn] at h
  have := List.length_pos_iff.2 h'
  simp only [firstLine, List.length_tail, List.length_drop] at this ⊢
  omega

/-- How many spaces a line begins with. -/
def Line.margin (l : Line) : Nat := (l.text.takeWhile (· == ' ')).length

/-- Whether a line of spaces ends. -/
def Line.isEmpty (l : Line) : Bool := l.stop.isSome && l.text.all (· == ' ')

/-- The fault of a tab in the indent of a block that began somewhere. -/
def tabFault (start : Place) (line margin : Nat) : SyntaxFault :=
  .problem .tabInIndent ⟨line, margin, margin⟩ (some (.block, start))

/-- The indent of a block that does not give it: the widest margin up to the first line with
something in it, but no less than a given one. A tab may not stand behind a margin. The number of
the first line is given. -/
def blockIndent (start : Place) (widest line : Nat) (s : List Char) : Scan Nat :=
  let l := (firstLine s).1
  if (l.text.drop l.margin).head? == some '\t' then .error (tabFault start line l.margin)
  else if h : l.isEmpty then
    blockIndent start (max widest l.margin) (line + 1) (firstLine s).2
  else .ok (max widest l.margin)
termination_by s.length
decreasing_by
  exact length_firstLine_lt (Bool.and_eq_true_iff.1 h).1

/-- What was read of a block. -/
structure Block where
  /-- The text without the end of the last line, in reverse. -/
  text : List Char := []
  /-- The end of the last line. -/
  stop : List Char := []
  /-- The ends of the empty lines since then, in reverse. -/
  empty : List Char := []
  /-- Whether the last line begins with a blank; then its end is not folded. -/
  indented : Bool := false

namespace Block

def addEmpty (b : Block) (stop : Char) : Block := { b with empty := stop :: b.empty }

/-- Add a line with something in it. In a folded block the end of the line before it is a blank, or
nothing if empty lines stand between. -/
def addLine (b : Block) (folded : Bool) (text : List Char) (stop : Option Char) : Block :=
  let blank := text.head?.any isBlank
  let between :=
    if folded && b.stop == ['\n'] && !b.indented && !blank then
      if b.empty.isEmpty then [' '] else b.empty
    else b.empty ++ b.stop
  { text := text.reverse ++ between ++ b.text, stop := stop.toList, indented := blank }

def chomped (b : Block) (chomp : Chomp) : String :=
  String.ofList <| List.reverse <|
    match chomp with
    | .strip => b.text
    | .clip => b.stop ++ b.text
    | .keep => b.empty ++ b.stop ++ b.text

/-- Read the lines of a block at an indent, which begin with the line of a number. Gives what follows
them. A tab may not stand in the indent. -/
def lines (folded : Bool) (indent : Nat) (start : Place) (b : Block) (line : Nat)
    (s : List Char) : Scan (Block × Cursor) :=
  let l := (firstLine s).1
  let width := min l.margin indent
  match h : l.stop, l.text.drop width with
  | some stop, [] =>
    lines folded indent start (b.addEmpty stop) (line + 1) (firstLine s).2
  | none, [] => .ok (b, ⟨{ line }, s⟩)
  | some stop, c :: cs =>
    if width = indent then
      lines folded indent start (b.addLine folded (c :: cs) (some stop)) (line + 1)
        (firstLine s).2
    else if c == '\t' then .error (tabFault start line width)
    else .ok (b, ⟨{ line }, s⟩)
  | none, c :: cs =>
    if width = indent then
      .ok (b.addLine folded (c :: cs) none, ⟨{ line := line + 1 }, []⟩)
    else if c == '\t' then .error (tabFault start line width)
    else .ok (b, ⟨{ line }, s⟩)
termination_by s.length
decreasing_by
  all_goals exact length_firstLine_lt (congrArg Option.isSome h)

end Block

/-- The block whose bar stands here. Its indent is the least column or more; the depth in its header
counts from the column of the collection around it. -/
def block (folded : Bool) (least : Nat) (c : Cursor) : Scan Scalar := do
  let (signs, heading) ← blockSigns c.place (c.advance 1)
  let heading := heading.toLineEnd
  if heading.rest.head?.all isBreak then
    let text := heading.rest.drop 1
    let line := c.place.line + 1
    let indent ←
      match signs.depth with
      | some depth => pure (least - 1 + depth)
      | none => blockIndent c.place (max least 1) line text
    let (b, next) ← Block.lines folded indent c.place {} line text
    return { text := b.chomped signs.chomp, stop := next }
  else stop .noLineEnd heading.place .block c.place

end VirtualPad.Yaml
