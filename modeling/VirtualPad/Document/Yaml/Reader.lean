import VirtualPad.Document.Node
import VirtualPad.Document.Yaml.Lexer

/-!
# YAML

Nodes read from YAML: `read` makes a node of the tokens of a text, as far as the text can be read. A
scalar keeps its style and its tag, and what is left out is the empty word. The tags of collections
say nothing.

Reading does not fail. When it breaks off, there are no more tokens for what is being read, so all
collections that are open are cut there, and `Reading.stop` tells why.
-/

namespace VirtualPad.Yaml

/-- Nodes by number. -/
abbrev Numbered := List (Nat × Node)

/-- What is left to read, and what was read that counts for it. -/
structure Unread where
  tokens : List Lexeme
  /-- What stops reading: behind the last token, or here if reading is broken off. -/
  stop : SyntaxFault
  broken : Bool := false
  /-- What the handles of tags stand for. -/
  handles : List (String × String) := [("", ""), ("!", "!"), ("!!", Tag.space)]
  /-- The numbers of names. -/
  numbers : List (String × Nat) := []
  /-- The numbers of the nodes that have names, in the order of their beginnings, the last one
  first. -/
  begun : List Nat := []
  /-- The nodes that have names, by how many of them began before. -/
  named : Numbered := []

/-- Reading takes tokens from what is left. -/
abbrev Read (α : Type) := StateM Unread α

def breakOff (fault : SyntaxFault) : Read Unit :=
  modify fun u => { u with stop := fault, broken := true, tokens := [] }

/-- Break off at a problem in what began somewhere. -/
def refuse (what : Problem) (place : Place) (activity : Activity) (start : Place) : Read Unit :=
  breakOff (.problem what place (some (activity, start)))

def peek : Read (Option Lexeme) := do
  match (← get).tokens with
  | t :: _ => return some t
  | [] =>
    modify fun u => { u with broken := true }
    return none

def take : Read Unit := modify fun u => { u with tokens := u.tokens.tail }

/-- The value that is left out at a place. -/
def nothing (p : Place) : Node := .plain p ""

/-- Nothing, if one of some tokens comes next. It stands at a place, or else where that token
begins. -/
def nothingBefore (ts : List Token) (p : Option Place) (read : Read Node) : Read Node := do
  match ← peek with
  | some t => if ts.contains t.token then return nothing (p.getD t.start) else read
  | none => return .cut

/-- Nothing, if one of some tokens comes next. It is taken. -/
def nothingFor (ts : List Token) (read : Read Node) : Read Node := do
  match ← peek with
  | some t =>
    if ts.contains t.token then
      take
      return nothing t.stop
    else read
  | none => return .cut

/-! ## Names -/

/-- A node with a name begins. A name gets the number of names that have been used, whether it is
one of them or not; two names with one number stand for the same node, the one that begins last.
Gives how many nodes with names began before. -/
def beginNamed (name : String) : Read Nat := do
  let u ← get
  let number := u.numbers.length
  set { u with
    numbers := (name, number) :: u.numbers.filter (·.1 != name)
    begun := number :: u.begun }
  return u.begun.length

/-- A node with a name, if it has one, is read. It does not begin if reading broke off in front of
it. -/
def readNamed (name : Option String) (read : Read Node) : Read Node := do
  match name, ← peek with
  | some name, some _ =>
    let place ← beginNamed name
    let n ← read
    modify fun u => { u with named := (place, n) :: u.named }
    return n
  | none, some _ => read
  | _, none => return .cut

/-- The node that a name at a place stands for. -/
def referred (name : String) (p : Place) : Read Node := do
  match (← get).numbers.lookup name with
  | some number => return .reference number
  | none =>
    breakOff (.unknownName p)
    return .cut

/-- The nodes that have names, by number; of two with one number the later one stands in front. -/
def Unread.numbered (u : Unread) : Numbered :=
  u.begun.zipIdx.filterMap fun (number, i) =>
    (u.named.lookup (u.begun.length - 1 - i)).map fun n => (number, n)

/-! ## Properties of nodes -/

/-- A tag as it is written, and where. -/
structure WrittenTag where
  handle : String
  rest : String
  place : Place

/-- What may stand in front of a node. -/
structure Properties where
  name : Option String := none
  tag : Option WrittenTag := none

def Properties.any (p : Properties) : Bool := p.name.isSome || p.tag.isSome

def anchor? : Read (Option String) := do
  match ← peek with
  | some ⟨.anchor name, _, _⟩ =>
    take
    return some name
  | _ => return none

def tag? : Read (Option WrittenTag) := do
  match ← peek with
  | some ⟨.tag handle rest, place, _⟩ =>
    take
    return some { handle, rest, place }
  | _ => return none

def properties : Read Properties := do
  let first ← anchor?
  let tag ← tag?
  let name ← if first.isNone && tag.isSome then anchor? else pure first
  return { name, tag }

/-- What a tag in front of a node that began somewhere means. Its handle must be known; it is looked
up when the token behind the properties is there. -/
def meaning (start : Place) (t : Option WrittenTag) : Read (Option String) := do
  match t, ← peek with
  | some t, some _ =>
    match (← get).handles.lookup t.handle with
    | some meaning => return some (meaning ++ t.rest)
    | none =>
      refuse .unknownHandle t.place .properties start
      return none
  | _, _ => return none

/-! ## Nodes -/

/-- What was read of a list or a map whose reading is broken off, in reverse. -/
def brokenOff {α : Type} (cut : α) (read : List α) : List α := (cut :: read).reverse

mutual

/-- A node. A collection by indentation may stand outside of brackets only, and a list whose dashes
stand at the column of the map around it only as a part of that map. -/
def node : Nat → Bool → Bool → Read Node
  | 0, _, _ => return .cut
  | fuel + 1, block, inMap => do
    match ← peek with
    | none => return .cut
    | some t =>
      match t.token with
      | .reference name =>
        take
        referred name t.start
      | _ =>
        let p ← properties
        let tag ← meaning t.start p.tag
        readNamed p.name (content fuel block inMap t.start p.any tag)

/-- A node that began somewhere behind its properties. If there are some it may be left out. An
exclamation mark that stands alone in front of a scalar is no tag. -/
def content : Nat → Bool → Bool → Place → Bool → Option String → Read Node
  | 0, _, _, _, _, _ => return .cut
  | fuel + 1, block, inMap, start, optional, tag => do
    match ← peek with
    | none => return .cut
    | some t =>
      let leaf (style : Leaf.Style) (w : String) : Read Node := do
        take
        return .leaf start (.written style (tag.filter (· != "!")) w)
      let missing : Read Node :=
        if optional then return .leaf start (.written .plain tag "")
        else do
          refuse .noContent t.start (if block then .blockNode else .flowNode) start
          return .cut
      match t.token with
      | .plain w => leaf .plain w
      | .text s => leaf .quoted s
      | .literal s => leaf .literal s
      | .openBracket =>
        take
        return .list start (← flowItems fuel t.start true [])
      | .openBrace =>
        take
        return .map start (← flowMembers fuel t.start true [])
      | .dash => if inMap then return .list start (← looseItems fuel []) else missing
      | .listStart =>
        if block then
          take
          return .list start (← blockItems fuel t.start [])
        else missing
      | .mapStart =>
        if block then
          take
          return .map start (← blockMembers fuel t.start [])
        else missing
      | _ => missing

/-- The items of a list by indentation that began somewhere. -/
def blockItems : Nat → Place → List Node → Read (List Node)
  | 0, _, read => return brokenOff .cut read
  | fuel + 1, start, read => do
    match ← peek with
    | none => return brokenOff .cut read
    | some t =>
      match t.token with
      | .blockEnd =>
        take
        return read.reverse
      | .dash =>
        take
        let item ← nothingBefore [.dash, .blockEnd] t.stop (node fuel true false)
        blockItems fuel start (item :: read)
      | _ =>
        refuse .noDash t.start .blockList start
        return brokenOff .cut read

/-- The items of a list whose dashes stand at the column of the map around it. -/
def looseItems : Nat → List Node → Read (List Node)
  | 0, read => return brokenOff .cut read
  | fuel + 1, read => do
    match ← peek with
    | none => return brokenOff .cut read
    | some t =>
      if t.token = .dash then
        take
        let item ← nothingBefore [.dash, .key, .value, .blockEnd] t.stop (node fuel true false)
        looseItems fuel (item :: read)
      else return read.reverse

/-- The members of a map by indentation that began somewhere. -/
def blockMembers : Nat → Place → List (Node × Node) → Read (List (Node × Node))
  | 0, _, read => return brokenOff (.cut, .cut) read
  | fuel + 1, start, read => do
    match ← peek with
    | none => return brokenOff (.cut, .cut) read
    | some t =>
      match t.token with
      | .blockEnd =>
        take
        return read.reverse
      | .key =>
        take
        let key ← nothingBefore [.key, .value, .blockEnd] t.stop (node fuel true true)
        let value ← blockValue fuel
        blockMembers fuel start ((key, value) :: read)
      | _ =>
        refuse .noKey t.start .blockMap start
        return brokenOff (.cut, .cut) read

/-- The value of a member of a map by indentation. -/
def blockValue : Nat → Read Node
  | 0 => return .cut
  | fuel + 1 => do
    match ← peek with
    | none => return .cut
    | some t =>
      if t.token = .value then
        take
        nothingBefore [.key, .value, .blockEnd] t.stop (node fuel true true)
      else return nothing t.start

/-- The items of a list in brackets that began somewhere, after the first one with commas in front.
The last comma may stand alone, and an item may be a map of one member. If the key of such a member
is left out, the sign behind its question mark says nothing more. Such a map ends where the next
token begins. -/
def flowItems : Nat → Place → Bool → List Node → Read (List Node)
  | 0, _, _, read => return brokenOff .cut read
  | fuel + 1, start, first, read => do
    match ← peek with
    | none => return brokenOff .cut read
    | some t =>
      if t.token = .closeBracket then
        take
        return read.reverse
      else if !first && t.token ≠ .comma then
        refuse .noListSeparator t.start .flowList start
        return brokenOff .cut read
      else
        if !first then take
        match ← peek with
        | none => return brokenOff .cut read
        | some t =>
          match t.token with
          | .closeBracket =>
            take
            return read.reverse
          | .key =>
            take
            let key ← nothingFor [.value, .comma, .closeBracket] (node fuel false false)
            let value ← flowValue fuel .closeBracket
            let ends := (← peek).isSome
            let members := if ends then [(key, value)] else [(key, value), (.cut, .cut)]
            flowItems fuel start false (.map t.start members :: read)
          | _ =>
            let item ← node fuel false false
            flowItems fuel start false (item :: read)

/-- The members of a map in braces that began somewhere. A member without a colon has no value. -/
def flowMembers : Nat → Place → Bool → List (Node × Node) → Read (List (Node × Node))
  | 0, _, _, read => return brokenOff (.cut, .cut) read
  | fuel + 1, start, first, read => do
    match ← peek with
    | none => return brokenOff (.cut, .cut) read
    | some t =>
      if t.token = .closeBrace then
        take
        return read.reverse
      else if !first && t.token ≠ .comma then
        refuse .noMapSeparator t.start .flowMap start
        return brokenOff (.cut, .cut) read
      else
        if !first then take
        match ← peek with
        | none => return brokenOff (.cut, .cut) read
        | some t =>
          match t.token with
          | .closeBrace =>
            take
            return read.reverse
          | .key =>
            take
            let key ←
              nothingBefore [.value, .comma, .closeBrace] none (node fuel false false)
            let value ← flowValue fuel .closeBrace
            flowMembers fuel start false ((key, value) :: read)
          | _ =>
            let key ← node fuel false false
            let value ← match ← peek with
              | some t => pure (nothing t.start)
              | none => pure .cut
            flowMembers fuel start false ((key, value) :: read)

/-- The value of a member between brackets of which the closing one is given. -/
def flowValue : Nat → Token → Read Node
  | 0, _ => return .cut
  | fuel + 1, closing => do
    match ← peek with
    | none => return .cut
    | some t =>
      if t.token = .value then
        take
        nothingBefore [.comma, closing] none (node fuel false false)
      else return nothing t.start

end

/-! ## Texts -/

/-- The directives in front of a document, of which there may be one of each. Only the first major
version is known. -/
def directives : Nat → Bool → List String → Read Unit
  | 0, _, _ => return
  | fuel + 1, versioned, declared => do
    match ← peek with
    | some ⟨.version major minor, place, _⟩ =>
      if versioned then breakOff (.problem .secondVersion place none)
      else if major != 1 || !(minor == 1 || minor == 2) then
        breakOff (.problem .otherVersion place none)
      else
        take
        directives fuel true declared
    | some ⟨.handle name meaning, place, _⟩ =>
      if declared.contains name then breakOff (.problem .secondHandle place none)
      else
        take
        modify fun u => { u with handles := (name, meaning) :: u.handles }
        directives fuel versioned (name :: declared)
    | _ => return

def Token.isLeading : Token → Bool
  | .version .. => true
  | .handle .. => true
  | .documentStart => true
  | _ => false

/-- The document behind its directives and its mark. -/
def markedDocument (fuel : Nat) : Read Node := do
  directives fuel false []
  match ← peek with
  | none => return .cut
  | some t =>
    if t.token = .documentStart then
      take
      match ← peek with
      | none => return .cut
      | some t =>
        if t.token.isLeading || t.token = .documentEnd || t.token = .textEnd then
          return nothing t.start
        else node fuel true false
    else
      breakOff (.problem .noDocumentStart t.start none)
      return .cut

/-- The first document, which may be left out, and the mark of its end. -/
def document (fuel : Nat) : Read Node := do
  match ← peek with
  | none => return .cut
  | some t =>
    let n ←
      if t.token.isLeading then markedDocument fuel
      else if t.token = .textEnd then pure (nothing t.start)
      else node fuel true false
    if (← peek).any (·.token = .documentEnd) then take
    return n

structure Reading where
  /-- The document as far as it could be read. -/
  root : Node
  /-- The nodes that references stand for. -/
  named : Numbered
  /-- What stops who reads on. -/
  stop : SyntaxFault
  /-- Whether reading broke off before the document ended. -/
  broken : Bool
  /-- Whether more stands behind the document than marks of ends. -/
  crowded : Bool

/-- Whether nothing but marks of ends stands in front of the end of the text. -/
def isFinished (ts : List Lexeme) : Bool :=
  ((ts.dropWhile (·.token = .documentEnd)).head?.map (·.token)) = some .textEnd

/-- Read the first document of a text. -/
def read (text : String) : Reading :=
  let l := Lexed.ofText text
  let (root, u) :=
    (document (3 * l.tokens.length + 3)).run { tokens := l.tokens, stop := l.stop }
  { root
    named := u.numbered
    stop := u.stop
    broken := u.broken
    crowded := !isFinished u.tokens }

end VirtualPad.Yaml
