import VirtualPad.Document.Fault
import VirtualPad.Document.Node
import VirtualPad.Document.Yaml.Word
import VirtualPad.OrderedMap

/-!
# Reading values from nodes

`Decode` reads values of types from nodes: numbers, texts, lists, maps and records. A plain word is
read as what its reader wants; what was written in quotes is a text and nothing else. The first flaw
that is met in the order of the text ends the reading, and so does the place where the text breaks
off.

A flaw gets its place from the innermost node around it that is read as a whole, and on its way out
of that one the steps that lead to it.
-/

namespace VirtualPad

/-! ## Scalars -/

namespace Leaf

/-- Whether a scalar is a word that was left out. -/
def isNothing : Leaf → Bool
  | .written .plain _ "" => true
  | _ => false

def text? : Leaf → Option String
  | .text s => some s
  | .written _ _ w => some w
  | _ => none

/-- The word that may stand for a value of a kind that has a tag: a plain one, or a block that has
this tag. -/
def wordFor? (kind : String) : Leaf → Option String
  | .written .plain _ w => some w
  | .written .literal tag w => if tag = some kind then some w else none
  | _ => none

def bool? : Leaf → Option Bool
  | .bool b => some b
  | l => (l.wordFor? Yaml.Tag.bool).bind Yaml.boolWord?

/-- The natural number of at most 64 bits that a scalar is. -/
def nat? (l : Leaf) : Option Nat :=
  let n :=
    match l with
    | .int i => if 0 ≤ i then some i.toNat else none
    | l => (l.wordFor? Yaml.Tag.int).bind Yaml.natWord?
  n.filter (· < 1 <<< 64)

/-- The integer of at most 64 bits that a scalar is. -/
def int? (l : Leaf) : Option Int :=
  let i :=
    match l with
    | .int i => some i
    | l => (l.wordFor? Yaml.Tag.int).bind Yaml.intWord?
  i.filter fun i => decide (-Int.ofNat (1 <<< 63) ≤ i ∧ i < Int.ofNat (1 <<< 63))

/-- What a plain word is for a reader who does not know what to want. -/
def foundWord (w : String) : Found :=
  if Yaml.isNullWord w then .nothing
  else
    match Yaml.boolWord? w, Yaml.wideWord? w with
    | some b, _ => .truth b
    | none, some i => .integer i
    | none, none =>
      match if Yaml.isPaddedWord w then none else Yaml.realText? w with
      | some digits => .real digits
      | none => .text w

/-- What a word behind a tag is. If the tag does not say what the word says, it is none of the
values of the tag. -/
def foundTagged (tag w : String) : Option (Except Flaw Found) :=
  let values (expected : String) (found : Option Found) : Option (Except Flaw Found) :=
    match found with
    | some found => some (.ok found)
    | none => some (.error (.value (.text w) expected))
  if tag = Yaml.Tag.bool then values "a boolean" ((Yaml.boolWord? w).map .truth)
  else if tag = Yaml.Tag.int then values "an integer" ((Yaml.wideWord? w).map .integer)
  else if tag = Yaml.Tag.real then values "a float" ((Yaml.realText? w).map .real)
  else if tag = Yaml.Tag.null then
    values "null" (if w ≠ "" && Yaml.isNullWord w then some .nothing else none)
  else none

/-- What a scalar is for a reader who does not know what to want. A tag that begins with an
exclamation mark leaves a plain word as it is. -/
def found : Leaf → Except Flaw Found
  | .null => .ok .nothing
  | .bool b => .ok (.truth b)
  | .int i => .ok (.integer i)
  | .decimal l => .ok (.real l)
  | .text s => .ok (.text s)
  | .written style tag w =>
    match tag.bind (foundTagged · w) with
    | some found => found
    | none =>
      let bare := tag.all fun tag => tag.toList.head? = some '!'
      .ok (if style = .plain && bare then foundWord w else .text w)

/-- The flaw of a scalar that is not of the kind that is expected. -/
def mismatch (l : Leaf) (expected : String) : Flaw :=
  match l.found with
  | .ok found => .kind found expected
  | .error flaw => flaw

end Leaf

/-! ## Reading -/

/-- What nodes are read from. -/
structure Source where
  /-- The nodes that references stand for. -/
  named : List (Nat × Node) := []
  /-- Whether a record may be a list of its fields. -/
  positional : Bool := false

/-- What ends a reading. -/
inductive Obstacle where
  /-- The text breaks off. -/
  | cut
  | form (fault : FormFault)
  deriving DecidableEq, Repr

/-- Reading a value from a source. -/
abbrev Decode (α : Type) := ReaderT Source (Except Obstacle) α

namespace Obstacle

/-- The flaw stands at a place, unless it has one. -/
def placed (p : Place) : Obstacle → Obstacle
  | .cut => .cut
  | .form f => .form { f with place := some (f.place.getD p) }

/-- A step leads to the flaw, if it has its place. -/
def within (step : Step) : Obstacle → Obstacle
  | .cut => .cut
  | .form f => .form (if f.place.isSome then { f with way := step :: f.way } else f)

end Obstacle

namespace Decode

variable {α β : Type}

/-- End at the place where the text breaks off. -/
def cut : Decode α := throw .cut

/-- End at a flaw. -/
def fail (flaw : Flaw) : Decode α := throw (.form { flaw })

/-- Change what ends a reading. -/
def mapObstacle (f : Obstacle → Obstacle) (d : Decode α) : Decode α :=
  fun source => (d source).mapError f

/-- A flaw of what is read stands at a place. -/
def placed (p : Place) (d : Decode α) : Decode α := d.mapObstacle (·.placed p)

def within (step : Step) (d : Decode α) : Decode α := d.mapObstacle (·.within step)

/-- The node that a node stands for. -/
def target (n : Node) : Decode Node := do
  match n with
  | .reference number => return ((← read).named.lookup number).getD .cut
  | n => return n

/-! ## Scalars -/

/-- Read a scalar; a list or a map is not what is expected. -/
def scalar (expected : String) (ofLeaf : Leaf → Except Flaw α) (n : Node) : Decode α := do
  match ← target n with
  | .leaf p l =>
    placed p <|
      match ofLeaf l with
      | .ok a => pure a
      | .error flaw => fail flaw
  | .list p _ => placed p (fail (.kind .list expected))
  | .map p _ => placed p (fail (.kind .map expected))
  | .reference _ => cut
  | .cut => cut

/-- Read a scalar that is of a kind or not. -/
def ofKind (expected : String) (ofLeaf? : Leaf → Option α) : Node → Decode α :=
  scalar expected fun l =>
    match ofLeaf? l with
    | some a => .ok a
    | none => .error (l.mismatch expected)

def text : Node → Decode String := ofKind "a string" Leaf.text?

def bool : Node → Decode Bool := ofKind "a boolean" Leaf.bool?

/-- Read a natural number below a bound. -/
def natBelow (bound : Nat) (expected : String) : Node → Decode Nat :=
  scalar expected fun l =>
    match l.nat? with
    | some n => if n < bound then .ok n else .error (.value (.integer n) expected)
    | none => .error (l.mismatch expected)

def uint8 (n : Node) : Decode UInt8 := UInt8.ofNat <$> natBelow UInt8.size "u8" n

def uint32 (n : Node) : Decode UInt32 := UInt32.ofNat <$> natBelow UInt32.size "u32" n

def int32 : Node → Decode Int32 :=
  scalar "i32" fun l =>
    match l.int? with
    | some i =>
      if -2147483648 ≤ i ∧ i < 2147483648 then .ok (Int32.ofInt i)
      else .error (.value (.integer i) "i32")
    | none => .error (l.mismatch "i32")

/-- Read a text that may be missing. Behind a tag a word is missing only if the tag says so, and
then the word has to say the same; if it does not, what is around it is to blame. -/
def optionalText (n : Node) : Decode (Option String) := do
  match ← target n with
  | .leaf _ .null => return none
  | .leaf p (.written .plain tag w) =>
    if tag.all (· = Yaml.Tag.null) && Yaml.isNullWord w && (w ≠ "" || tag.isNone) then return none
    else if tag = some Yaml.Tag.null then fail (.value (.text w) "null")
    else some <$> text (.leaf p (.written .plain tag w))
  | n => some <$> text n

/-! ## Collections -/

/-- Read what may be left out, although it is expected to be a list or a map. -/
def orNothing (expected : String) (nothing : Decode α) (n : Node) : Decode α :=
  scalar expected (fun l => if l.isNothing then .ok () else .error (l.mismatch expected)) n >>=
    fun _ => nothing

def listOf (item : Node → Decode α) (n : Node) : Decode (List α) := do
  match ← target n with
  | .list p items => placed p (items.zipIdx.mapM fun (n, i) => within (.item i) (item n))
  | n => orNothing "a sequence" (pure []) n

def stepTo : Node → Step
  | .leaf _ l => (l.text?.map Step.member).getD .unnamed
  | _ => .unnamed

/-- Read a map, each key and each value in the same way; of two equal keys the later one counts. -/
def mapOf {κ : Type} [LT κ] [DecidableEq κ] [DecidableLT κ] [KeyOrder κ]
    (key : Node → Decode κ) (value : Node → Decode α) (n : Node) : Decode (OrderedMap κ α) := do
  match ← target n with
  | .map p entries =>
    placed p do
      let entries ← entries.mapM fun (k, n) => do
        return (← key k, ← within (stepTo k) (value n))
      return .ofList entries
  | n => orNothing "a map" (pure .empty) n

def skip (n : Node) : Decode Unit := if n.isOpen then cut else pure ()

/-! ## Records -/

/-- Whether a field of a record has to be there. -/
inductive Need where
  | optional
  /-- It has to be there if the record is a list of its fields. -/
  | positional
  | always
  deriving DecidableEq, Repr

/-- A field of a record: its name, and how a record is changed by what is read for it. -/
structure Field (α : Type) where
  name : String
  need : Need
  read : Node → α → Decode α

/-- The field that is read in some way and set in some way. -/
def field (name : String) (read : Node → Decode β) (set : α → β → α) (need : Need := .optional) :
    Field α :=
  { name, need, read := fun n a => set a <$> read n }

/-- A record of which some fields have been read. -/
structure Draft (α : Type) where
  value : α
  /-- The names of the fields that have been read. -/
  seen : List String := []

def Field.into (f : Field α) (step : Step) (n : Node) (d : Draft α) : Decode (Draft α) := do
  if d.seen.contains f.name then fail (.duplicate f.name)
  else return { value := ← within step (f.read n d.value), seen := f.name :: d.seen }

/-- Read the fields of a record under their names. What nobody knows is passed over. -/
def members (fields : List (Field α)) (entries : List (Node × Node)) (d : Draft α) :
    Decode (Draft α) :=
  entries.foldlM
    (fun d (k, n) => do
      let name ← ofKind "field identifier" Leaf.text? k
      match fields.find? (·.name == name) with
      | some f => f.into (stepTo k) n d
      | none =>
        skip n
        return d) d

/-- Read the fields of a record in their order. -/
def positions (fields : List (Field α)) (items : List Node) (d : Draft α) : Decode (Draft α) :=
  (fields.zip items).zipIdx.foldlM (fun d ((f, n), i) => f.into (.item i) n d) d

/-- The value of a record that has been read, where the fields of some needs have to be there. -/
def Draft.finish (d : Draft α) (fields : List (Field α)) (needed : Need → Bool) : Decode α :=
  match fields.find? fun f => needed f.need && !d.seen.contains f.name with
  | some f => fail (.missing f.name)
  | none => pure d.value

/-- Read a record with a name from its fields: in a map under their names, where a name may occur
only once, or in a list in order if the source has such records. Fields that are absent leave the
record as it is. -/
def record (name : String) (fields : List (Field α)) (base : α) (n : Node) : Decode α := do
  let expected := "struct " ++ name
  match ← target n with
  | .map p entries =>
    placed p do (← members fields entries { value := base }).finish fields (· == .always)
  | .list p items =>
    placed p do
      if (← read).positional && items.length ≤ fields.length then
        (← positions fields items { value := base }).finish fields (· != .optional)
      else fail (.kind .list expected)
  | .leaf p l =>
    orNothing expected (placed p (Draft.finish { value := base } fields (· == .always)))
      (.leaf p l)
  | .reference _ => cut
  | .cut => cut

end Decode

namespace Document

/-- Read a value from a document, where a record may be a list of its fields. -/
def decode? {α : Type} (read : Node → Decode α) (d : Document) : Option α :=
  ((read (Node.ofDocument d)).run { positional := true }).toOption

end Document

end VirtualPad
