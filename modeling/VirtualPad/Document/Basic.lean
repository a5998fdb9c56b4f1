/-!
# Documents

Trees of values, as reports and files of configuration hold them. What is read from a text, where
things stand at places and may be wrong, is a `Node`.
-/

namespace VirtualPad

/-- A tree of values. -/
inductive Document where
  | null
  | bool (value : Bool)
  | int (value : Int)
  /-- A number that is not written as an integer, by its literal. -/
  | decimal (literal : String)
  | text (value : String)
  /-- A text that may be read as a number as well. -/
  | plain (word : String)
  | list (items : List Document)
  | map (entries : List (Document × Document))
  deriving BEq, Repr, Inhabited

namespace Document

/-- The map with texts as keys. -/
def object (fields : List (String × Document)) : Document :=
  .map (fields.map fun (k, v) => (.text k, v))

def nat (n : Nat) : Document := .int n

def bool? : Document → Option Bool
  | .bool b => some b
  | _ => none

def text? : Document → Option String
  | .text s => some s
  | .plain s => some s
  | _ => none

/-- The value of a map under a key; of two equal keys the later one counts. -/
def field? (d : Document) (key : String) : Option Document :=
  match d with
  | .map entries => (entries.reverse.find? fun entry => entry.1.text? == some key).map (·.2)
  | _ => none

end Document

end VirtualPad
