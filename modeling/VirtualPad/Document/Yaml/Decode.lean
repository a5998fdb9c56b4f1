import VirtualPad.Document.Decode
import VirtualPad.Document.Yaml.Printer
import VirtualPad.Document.Yaml.Reader

/-!
# Values read from YAML

A value is read from what a text holds as far as the text can be read: a flaw in front of the place
where the text breaks off comes first, then what breaks it off, and last that a second document
follows. How documents are written and texts are read is a parameter, a `Yaml.Codec`.
-/

namespace VirtualPad.Yaml

/-- A way to write documents and to read texts. -/
structure Codec where
  print : Document → String
  read : String → Reading

/-- The way of this library. -/
def codec : Codec := ⟨print, read⟩

/-- Read a value from a text that holds one document, or none. -/
def Codec.decode {α : Type} (y : Codec) (value : Node → Decode α) (text : String) : Except Fault α :=
  let r := y.read text
  match (value r.root).run { named := r.named } with
  | .error .cut => .error (.syntactic r.stop)
  | .error (.form fault) => .error (.formal fault)
  | .ok a =>
    if r.broken then .error (.syntactic r.stop)
    else if r.crowded then .error .crowded
    else .ok a

end VirtualPad.Yaml
