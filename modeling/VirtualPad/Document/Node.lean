import VirtualPad.Document.Basic
import VirtualPad.Document.Place

/-!
# Nodes

Trees as they are read from a text: every node has its place, a scalar is kept as it was written
where only its reader can tell what it stands for, and a node that is referred to by a number may
stand elsewhere. Where the text breaks off, `Node.cut` stands for what is not there: a list that is
not read to its end has it as its last item, and a map as the key and the value of its last entry.
So everything in front of the break can be looked at.
-/

namespace VirtualPad

/-- How a scalar is written. -/
inductive Leaf.Style where
  | plain
  /-- A block whose lines are kept. -/
  | literal
  /-- In quotes, or as a block whose lines are joined. -/
  | quoted
  deriving DecidableEq, Repr

inductive Leaf where
  | null
  | bool (value : Bool)
  | int (value : Int)
  /-- A number that is not written as an integer, by its literal. -/
  | decimal (literal : String)
  | text (value : String)
  /-- A word, which stands for what its reader wants if it is plain, or if its tag says so. -/
  | written (style : Leaf.Style) (tag : Option String) (word : String)
  deriving DecidableEq, Repr

/-- A tree of values as it is read from a text. -/
inductive Node where
  | leaf (place : Place) (value : Leaf)
  | list (place : Place) (items : List Node)
  | map (place : Place) (entries : List (Node × Node))
  /-- The node with a number. -/
  | reference (number : Nat)
  /-- What is missing where the text breaks off. -/
  | cut
  deriving Repr, Inhabited

namespace Node

/-- Whether nothing of a node is there. -/
def isCut : Node → Bool
  | .cut => true
  | _ => false

/-- Whether the text breaks off before the end of a node. -/
def isOpen : Node → Bool
  | .cut => true
  | .list _ items => items.getLast?.any isCut
  | .map _ entries => entries.getLast?.any fun (key, _) => key.isCut
  | _ => false

/-- A word without quotes and without a tag. -/
def plain (place : Place) (word : String) : Node := .leaf place (.written .plain none word)

mutual

/-- A document as a node. It has no places. -/
def ofDocument : Document → Node
  | .null => .leaf {} .null
  | .bool b => .leaf {} (.bool b)
  | .int i => .leaf {} (.int i)
  | .decimal l => .leaf {} (.decimal l)
  | .text s => .leaf {} (.text s)
  | .plain w => .plain {} w
  | .list items => .list {} (ofItems items)
  | .map entries => .map {} (ofEntries entries)

def ofItems : List Document → List Node
  | [] => []
  | d :: ds => ofDocument d :: ofItems ds

def ofEntries : List (Document × Document) → List (Node × Node)
  | [] => []
  | (k, d) :: ds => (ofDocument k, ofDocument d) :: ofEntries ds

end

end Node

end VirtualPad
