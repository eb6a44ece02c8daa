import DungeonScript.Bounded

/-!
Numerals. A number argument is read as blanks, an optional sign, and a magnitude:
`0x` and hexadecimal digits, `0` and octal digits, or decimal digits, whichever
fits first. A magnitude beyond 63 bits does not fit. What follows the number is
not read; whether anything follows is part of the result.
-/

namespace DungeonScript

/-- A number read from the start of a text. -/
structure Numeral where
  value : Int
  /-- The number takes up the whole text. -/
  complete : Bool
  deriving Repr, DecidableEq

namespace Numeral

/-- A character that may stand before a number. -/
def isBlank (c : Char) : Bool := c = ' ' || c = '\t' || c = '\r' || c = '\n'

def isOctal (c : Char) : Bool := '0' ≤ c && c ≤ '7'

def isHex (c : Char) : Bool := c.isDigit || ('a' ≤ c && c ≤ 'f') || ('A' ≤ c && c ≤ 'F')

def digitValue (c : Char) : Nat :=
  if c.isDigit then c.toNat - '0'.toNat
  else if 'a' ≤ c then c.toNat - 'a'.toNat + 10
  else c.toNat - 'A'.toNat + 10

def valueOf (base : Nat) (digits : List Char) : Nat :=
  digits.foldl (fun v c => v * base + digitValue c) 0

/-- The value and the rest of the text, if the value has at most 63 bits. -/
def fitting (v : Nat) (rest : List Char) : Option (Nat × List Char) :=
  if v ≤ 9223372036854775807 then some (v, rest) else none

/-- The digits that `isDigit` accepts at the start of the text, at least one. -/
def digits? (isDigit : Char → Bool) (base : Nat) (cs : List Char) : Option (Nat × List Char) :=
  if (cs.takeWhile isDigit).isEmpty then none
  else fitting (valueOf base (cs.takeWhile isDigit)) (cs.dropWhile isDigit)

def hexadecimal? : List Char → Option (Nat × List Char)
  | '0' :: 'x' :: cs => digits? isHex 16 cs
  | '0' :: 'X' :: cs => digits? isHex 16 cs
  | _ => none

def octal? : List Char → Option (Nat × List Char)
  | '0' :: cs => fitting (valueOf 8 (cs.takeWhile isOctal)) (cs.dropWhile isOctal)
  | _ => none

def decimal? (cs : List Char) : Option (Nat × List Char) := digits? Char.isDigit 10 cs

/-- The magnitude at the start of the text, in the first of the three forms that
    fits. -/
def magnitude? (cs : List Char) : Option (Nat × List Char) :=
  hexadecimal? cs <|> octal? cs <|> decimal? cs

/-- Whether a minus sign stands first, and the text after an optional sign. -/
def splitSign : List Char → Bool × List Char
  | '-' :: cs => (true, cs)
  | '+' :: cs => (false, cs)
  | cs => (false, cs)

/-- Blanks, an optional sign, and a magnitude in one of the given forms. -/
def signed? (form : List Char → Option (Nat × List Char)) (cs : List Char) :
    Option (Int × List Char) :=
  let s := splitSign (cs.dropWhile isBlank)
  (form s.2).map fun m => (if s.1 then -(m.1 : Int) else m.1, m.2)

/-- The number at the start of a text; 0 when there is none, which is complete only
    for the empty text. -/
def read (text : String) : Numeral :=
  match signed? magnitude? text.toList with
  | some (v, rest) => ⟨v, rest.isEmpty⟩
  | none => ⟨0, text.toList.isEmpty⟩

/-- The decimal number at the start of a text, 0 when there is none. -/
def leadingDecimal (text : String) : Int :=
  match signed? decimal? text.toList with
  | some (v, _) => v
  | none => 0

end Numeral

end DungeonScript
