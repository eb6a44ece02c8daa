import DungeonScript.Bounded

/-!
Decimal numbers as they stand in settings and on the command line: the whole text is
the number. A sign may stand in front, a fraction may have an exponent.
-/

namespace DungeonScript

namespace Decimal

/-- The value of a text of digits, at least one. -/
def digits? (cs : List Char) : Option Nat :=
  if cs.isEmpty then none
  else if cs.all Char.isDigit then
    some (cs.foldl (fun v c => v * 10 + (c.toNat - '0'.toNat)) 0)
  else none

def signed? : List Char → Option Int
  | '-' :: cs => (digits? cs).map fun n => -(n : Int)
  | '+' :: cs => (digits? cs).map fun n => (n : Int)
  | cs => (digits? cs).map fun n => (n : Int)

def whole? (text : String) : Option Int :=
  (signed? text.toList).filter fun v => decide (InRange v)

/-- A counter of 64 bits: a plus sign may stand in front, a minus sign may not. -/
def counter? (text : String) : Option Nat :=
  let n := match text.toList with
    | '+' :: cs => digits? cs
    | cs => digits? cs
  n.filter (· ≤ 18446744073709551615)

/-! ## Fractions -/

/-- The binary fraction nearest to `m` times a power of ten. Powers that leave nothing
    of `m`, or nothing but infinity, are cut to one that does the same. -/
def scaled (m : Nat) (digitCount : Nat) (exponent : Int) : Float :=
  let e := clamp (-(digitCount + 400)) 400 exponent
  Float.ofScientific m (e < 0) e.natAbs

/-- The exponent after a mantissa: none, or `e` and a number with an optional sign. -/
def exponent? : List Char → Option Int
  | [] => some 0
  | 'e' :: cs => signed? cs
  | 'E' :: cs => signed? cs
  | _ => none

/-- A fraction without a sign: digits, a point and digits, either of them perhaps
    missing, and perhaps an exponent. -/
def unsignedFraction? (cs : List Char) : Option Float :=
  let before := cs.takeWhile Char.isDigit
  let rest := cs.dropWhile Char.isDigit
  let (after, rest) := match rest with
    | '.' :: r => (r.takeWhile Char.isDigit, r.dropWhile Char.isDigit)
    | r => ([], r)
  match digits? (before ++ after), exponent? rest with
  | some m, some e => some (scaled m (before ++ after).length (e - after.length))
  | _, _ => none

def unwritable? (cs : List Char) : Option Float :=
  match String.ofList (cs.map Char.toLower) with
  | "inf" | "infinity" => some (1.0 / 0.0)
  | "nan" => some (0.0 / 0.0)
  | _ => none

def fraction? (text : String) : Option Float :=
  let read (cs : List Char) := unwritable? cs <|> unsignedFraction? cs
  match text.toList with
  | '-' :: cs => (read cs).map fun x => -x
  | '+' :: cs => read cs
  | cs => read cs

end Decimal

end DungeonScript
