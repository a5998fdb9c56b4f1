import VirtualPad.Number.Double

/-!
# Plain words

What a scalar without quotes can stand for, where a reader asks for nothing, a truth value or a
number. A text takes every word as it is written; `isAmbiguous` tells which words could be taken for
something else by a reader who does not know what to ask for.
-/

namespace VirtualPad.Yaml

/-! ## Tags -/

namespace Tag

/-- What the tags that everybody knows begin with. -/
def space : String := "tag:yaml.org,2002:"

/-- The tag of nothing at all. -/
def null : String := space ++ "null"

def bool : String := space ++ "bool"

def int : String := space ++ "int"

/-- The tag of numbers with a point. -/
def real : String := space ++ "float"

end Tag

/-! ## What words stand for -/

/-- Whether a plain word stands for nothing at all. -/
def isNullWord (w : String) : Bool := ["", "~", "null", "Null", "NULL"].contains w

def boolWord? (w : String) : Option Bool :=
  if ["true", "True", "TRUE"].contains w then some true
  else if ["false", "False", "FALSE"].contains w then some false
  else none

/-- The value of a digit of a base up to sixteen. -/
def digit? (base : Nat) (c : Char) : Option Nat :=
  let value :=
    if c.isDigit then c.toNat - 48
    else if 'a' ≤ c ∧ c ≤ 'f' then c.toNat - 87
    else if 'A' ≤ c ∧ c ≤ 'F' then c.toNat - 55
    else base
  if value < base then some value else none

/-- The number that digits of a base write. -/
def digits? (base : Nat) (digits : List Char) : Option Nat :=
  if digits = [] then none
  else
    digits.foldl (fun n c => n.bind fun n => (digit? base c).map fun d => base * n + d) (some 0)

/-- Whether decimal digits begin with a zero that says nothing; they do not write a number. -/
def hasIdleZero : List Char → Bool
  | '0' :: c :: rest => (c :: rest).all Char.isDigit
  | _ => false

/-- The number that a word without a sign writes: in base sixteen, eight or two behind `0x`, `0o` or
`0b`, in base ten otherwise. -/
def unsigned? (w : List Char) : Option Nat :=
  match w with
  | '0' :: 'x' :: rest => digits? 16 rest
  | '0' :: 'o' :: rest => digits? 8 rest
  | '0' :: 'b' :: rest => digits? 2 rest
  | w => if hasIdleZero w then none else digits? 10 w

/-- The natural number that a plain word stands for. It may have a plus sign. -/
def natWord? (w : String) : Option Nat :=
  match w.toList with
  | '+' :: rest => unsigned? rest
  | rest => unsigned? rest

/-- The integer that a plain word stands for. -/
def intWord? (w : String) : Option Int :=
  match w.toList with
  | '-' :: rest => (unsigned? rest).map fun n => -(n : Int)
  | _ => (natWord? w).map Int.ofNat

/-! ## Words that are no texts -/

/-- A decimal number: an integer times a power of ten. -/
structure Decimal where
  digits : List Char
  exponent : Int
  deriving Repr

/-- The exponent behind a letter `e`. -/
def exponent? : List Char → Option Int
  | '-' :: rest => (digits? 10 rest).map fun n => -(n : Int)
  | '+' :: rest => (digits? 10 rest).map Int.ofNat
  | rest => (digits? 10 rest).map Int.ofNat

/-- The decimal number that a word without a sign writes: digits with or without a point among them,
and perhaps an exponent. -/
def decimal? (w : List Char) : Option Decimal :=
  let whole := w.takeWhile Char.isDigit
  let w := w.drop whole.length
  let (part, w) :=
    match w with
    | '.' :: w => (w.takeWhile Char.isDigit, w.dropWhile Char.isDigit)
    | w => ([], w)
  let exponent :=
    match w with
    | [] => some 0
    | c :: w => if c == 'e' || c == 'E' then exponent? w else none
  if whole ++ part = [] then none
  else exponent.map fun e => ⟨whole ++ part, e - part.length⟩

/-- Whether a decimal number is less than the least one that no longer rounds to a number of 64
bits. That one has 309 digits, so that numbers of other lengths need no arithmetic. -/
def Decimal.isFinite (d : Decimal) : Bool :=
  let digits := d.digits.dropWhile (· == '0')
  let length := digits.length + d.exponent
  let value := (digits? 10 digits).getD 0
  let bound := 18014398509481983 <<< 970
  digits.isEmpty || length < 309 || (length == 309 &&
    (if 0 ≤ d.exponent then decide (value * Nat.pow 10 d.exponent.toNat < bound)
      else decide (value < bound * Nat.pow 10 (-d.exponent).toNat)))

/-- The words for what is no number. -/
def noNumberWords : List String := [".nan", ".NaN", ".NAN"]

/-- The words for the number beyond all others, without a sign. -/
def endlessWords : List String := [".inf", ".Inf", ".INF"]

/-- A word behind its sign. -/
def withoutSign : List Char → List Char
  | '-' :: rest => rest
  | '+' :: rest => rest
  | rest => rest

/-- Whether a word is for what is no number, or for a number beyond all others. -/
def isExtremeWord (w : String) : Bool :=
  noNumberWords.contains w || endlessWords.contains (String.ofList (withoutSign w.toList))

/-- Whether a word is written like a number of 64 bits, perhaps with zeros in front that say
nothing. -/
def isRealWord (w : String) : Bool := (decimal? (withoutSign w.toList)).any Decimal.isFinite

/-- Whether a word writes an integer behind zeros that say nothing. It stands for no number, but
other readers take it for one. -/
def isPaddedWord (w : String) : Bool := hasIdleZero (withoutSign w.toList)

/-- The integer of at most 128 bits that a word writes. -/
def wideWord? (w : String) : Option Int :=
  (intWord? w).filter fun i => -Int.ofNat (1 <<< 127) ≤ i && i < Int.ofNat (1 <<< 128)

/-- The number of 64 bits that a word writes, as it is shown. -/
def realText? (w : String) : Option String :=
  let sign := if w.toList.head? = some '-' then "-" else ""
  let rest := withoutSign w.toList
  if noNumberWords.contains w then some "NaN"
  else if endlessWords.contains (String.ofList rest) then some (sign ++ "inf")
  else
    ((decimal? rest).filter Decimal.isFinite).map fun d =>
      sign ++ (Number.Double.ofDecimal ⟨(digits? 10 d.digits).getD 0, d.exponent⟩).text

/-- Whether a word could be taken for something else than a text. -/
def isAmbiguous (w : String) : Bool :=
  isNullWord w || (boolWord? w).isSome || (wideWord? w).isSome || isRealWord w ||
    isPaddedWord w || isExtremeWord w

end VirtualPad.Yaml
