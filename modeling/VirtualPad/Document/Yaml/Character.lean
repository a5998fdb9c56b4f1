/-!
# Characters of YAML

The classes of characters that carry the structure of a YAML text. Lines end in five ways; one
character of a mark, a dash or a colon counts only where a gap follows it.
-/

namespace VirtualPad.Yaml

/-- A space or a tab. -/
def isBlank (c : Char) : Bool := c == ' ' || c == '\t'

/-- A character that ends a line. -/
def isBreak (c : Char) : Bool :=
  c == '\n' || c == '\r' || c == '\u0085' || c == '\u2028' || c == '\u2029'

/-- Whether a text ends here, or goes on with a blank or the end of a line. -/
def isSpaced : List Char → Bool
  | [] => true
  | c :: _ => isBlank c || isBreak c

/-- Whether a text begins with a mark of a document's start or end. -/
def isMarker : List Char → Bool
  | '-' :: '-' :: '-' :: rest => isSpaced rest
  | '.' :: '.' :: '.' :: rest => isSpaced rest
  | _ => false

/-- The characters that mean something at the beginning of a scalar, wherever they stand. -/
def indicators : List Char :=
  ['#', ',', '[', ']', '\x7b', '\x7d', '&', '*', '!', '|', '>', '\'', '"', '%', '@', '\x60']

/-- The characters that structure what stands between brackets. -/
def flowIndicators : List Char := [',', '[', ']', '\x7b', '\x7d']

/-- Whether a character can be written as itself. -/
def isPrintable (c : Char) : Bool :=
  let n := c.toNat
  n == 0xA || (0x20 ≤ n && n ≤ 0x7E) || (0xA0 ≤ n && n ≤ 0xFFFD && n != 0xFEFF) || 0x10000 ≤ n

/-- Whether a text may hold a character. -/
def isAllowed (c : Char) : Bool :=
  isPrintable c || c == '\t' || c == '\r' || c == '\u0085' || c == '\ufeff'

/-- A letter, a digit, an underscore or a hyphen. -/
def isNameChar (c : Char) : Bool := c.isAlphanum || c == '_' || c == '-'

end VirtualPad.Yaml
