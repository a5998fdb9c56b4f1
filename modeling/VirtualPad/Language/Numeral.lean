/-!
# Numerals of the mapping language

Unsigned numbers of at most eight letters and digits. Where the base is not fixed it is read off the
first characters: `0x` for hexadecimal, another leading zero for octal, decimal otherwise.
-/

namespace VirtualPad.Language

/-- The most characters a numeral may have. -/
def numeralLimit : Nat := 8

/-- The value of a digit in any base up to 36. -/
def digitValue (c : Char) : Nat :=
  if c.isDigit then c.toNat - 48
  else if c.isUpper then c.toNat - 55
  else c.toNat - 87

/-- The number written by digits of a base, or nothing if there are no digits or one of them is too
great for the base. -/
def ofDigits? (base : Nat) (digits : List Char) : Option Nat :=
  if digits = [] then none
  else
    digits.foldl
      (fun n c => n.bind fun n =>
        if digitValue c < base then some (base * n + digitValue c) else none)
      (some 0)

/-- The base that the first characters of a numeral announce, and the digits that follow. -/
def announcedBase : List Char → Nat × List Char
  | '0' :: 'x' :: digits => (16, digits)
  | '0' :: 'X' :: digits => (16, digits)
  | '0' :: c :: digits => (8, c :: digits)
  | digits => (10, digits)

/-- Whether a text has the length and the characters of a numeral. -/
def isNumeral (s : List Char) : Bool := s.length ≤ numeralLimit && s.all Char.isAlphanum

def decimal? (s : List Char) : Option Nat := if isNumeral s then ofDigits? 10 s else none

/-- Read a numeral in the base that it announces. -/
def number? (s : List Char) : Option Nat :=
  if isNumeral s then ofDigits? (announcedBase s).1 (announcedBase s).2 else none

end VirtualPad.Language
