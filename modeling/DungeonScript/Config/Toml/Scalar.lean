import DungeonScript.Config.Toml.Text
import DungeonScript.Config.Value

/-!
Values of TOML that are one word: truths, numbers and moments. Underscores may stand
between the digits of a number. A moment is a date, a time of day, or both, perhaps
with an offset; it is kept as it is written.
-/

namespace DungeonScript

namespace Toml

open Config (Value)

/-! ## Numbers -/

/-- Digits without the underscores between them. An underscore that does not stand
    between digits is refused. -/
def joined? (isDigit : Char → Bool) : List Char → Option (List Char)
  | [] => some []
  | [c] => if isDigit c then some [c] else none
  | c :: '_' :: d :: rest =>
    if isDigit c && isDigit d then (joined? isDigit (d :: rest)).map (c :: ·) else none
  | c :: rest => if isDigit c then (joined? isDigit rest).map (c :: ·) else none

/-- The value of digits of a base, at least one. -/
def based? (base : Nat) (isDigit : Char → Bool) (cs : List Char) : Option Nat :=
  if cs.isEmpty then none else (joined? isDigit cs).map (valueOf base)

/-- Decimal digits that do not start with a needless zero. -/
def plainDigits? (cs : List Char) : Option (List Char) :=
  match joined? Char.isDigit cs with
  | some ['0'] => some ['0']
  | some ('0' :: _) => none
  | some [] => none
  | ds => ds

def magnitude? (signed : Bool) : List Char → Option Nat
  | '0' :: 'x' :: cs => if signed then none else based? 16 isHexDigit cs
  | '0' :: 'o' :: cs => if signed then none else based? 8 (fun c => '0' ≤ c && c ≤ '7') cs
  | '0' :: 'b' :: cs => if signed then none else based? 2 (fun c => c = '0' || c = '1') cs
  | cs => (plainDigits? cs).map (valueOf 10)

def whole? (cs : List Char) : Option Int :=
  let n : Option Int := match cs with
    | '-' :: cs => (magnitude? true cs).map fun m => -(m : Int)
    | '+' :: cs => (magnitude? true cs).map fun m => (m : Int)
    | cs => (magnitude? false cs).map fun m => (m : Int)
  n.filter fun v => decide (InRange v)

def isExponent : List Char → Bool
  | c :: cs =>
    (c = 'e' || c = 'E') && match cs with
      | '+' :: ds => (based? 10 Char.isDigit ds).isSome
      | '-' :: ds => (based? 10 Char.isDigit ds).isSome
      | ds => (based? 10 Char.isDigit ds).isSome
  | [] => false

/-- The part of a fraction after its first digits. -/
def isFractionTail : List Char → Bool
  | '.' :: cs =>
    let digits := cs.takeWhile fun c => c.isDigit || c = '_'
    let rest := cs.dropWhile fun c => c.isDigit || c = '_'
    (based? 10 Char.isDigit digits).isSome && (rest.isEmpty || isExponent rest)
  | cs => isExponent cs

/-- Whether a word without its sign is a fraction in digits. -/
def isFraction (cs : List Char) : Bool :=
  let digits := cs.takeWhile fun c => c.isDigit || c = '_'
  let rest := cs.dropWhile fun c => c.isDigit || c = '_'
  (plainDigits? digits).isSome && isFractionTail rest

/-- A fraction with an optional sign. One in digits is refused if it is too great. -/
def fraction? (cs : List Char) : Option Float :=
  let body := match cs with
    | '-' :: cs => cs
    | '+' :: cs => cs
    | cs => cs
  let x := Decimal.fraction? (String.ofList (cs.filter (· ≠ '_')))
  if body = "inf".toList || body = "nan".toList then x
  else if isFraction body then x.filter (!·.isInf)
  else none

/-! ## Moments -/

/-- A number of this many digits, from `least` to `greatest`. -/
def part? (count least greatest : Nat) (cs : List Char) : Option (Nat × List Char) :=
  let digits := cs.take count
  if digits.length = count && digits.all Char.isDigit
      && least ≤ valueOf 10 digits && valueOf 10 digits ≤ greatest then
    some (valueOf 10 digits, cs.drop count)
  else none

/-- What follows a character that must stand here. -/
def after? (c : Char) : List Char → Option (List Char)
  | d :: rest => if d = c then some rest else none
  | [] => none

def monthLength (year month : Nat) : Nat :=
  if month = 2 then
    if year % 4 = 0 && (year % 100 != 0 || year % 400 = 0) then 29 else 28
  else if [4, 6, 9, 11].contains month then 30
  else 31

def date? (cs : List Char) : Option (List Char) := do
  let (year, rest) ← part? 4 0 9999 cs
  let (month, rest) ← part? 2 1 12 (← after? '-' rest)
  let (_, rest) ← part? 2 1 (monthLength year month) (← after? '-' rest)
  return rest

/-- What follows a time of day, whose seconds may be left out. -/
def time? (cs : List Char) : Option (List Char) := do
  let (_, rest) ← part? 2 0 23 cs
  let (_, rest) ← part? 2 0 59 (← after? ':' rest)
  match rest with
  | ':' :: rest => do
    let (_, rest) ← part? 2 0 60 rest
    match rest with
    | '.' :: c :: rest => if c.isDigit then some (rest.dropWhile Char.isDigit) else none
    | rest => some rest
  | rest => some rest

/-- Whether what follows a time is an offset and nothing more. -/
def isOffset : List Char → Bool
  | ['Z'] => true
  | ['z'] => true
  | c :: rest =>
    (c = '+' || c = '-') && (do
      let (_, rest) ← part? 2 0 23 rest
      let (_, rest) ← part? 2 0 59 (← after? ':' rest)
      if rest.isEmpty then some () else none).isSome
  | [] => false

def isMoment (cs : List Char) : Bool :=
  match date? cs with
  | some [] => true
  | some (c :: rest) =>
    (c = 'T' || c = 't' || c = ' ') && match time? rest with
      | some rest => rest.isEmpty || isOffset rest
      | none => false
  | none => time? cs == some []

/-! ## Words -/

/-- A character of a value without quotes or brackets. -/
def isWordChar (c : Char) : Bool :=
  c.isAlphanum || c = '_' || c = '+' || c = '-' || c = '.' || c = ':'

/-- A word and what follows it. A blank may stand between a date and a time. -/
def splitWord (cs : List Char) : List Char × List Char :=
  let word := cs.takeWhile isWordChar
  match cs.dropWhile isWordChar with
  | ' ' :: c :: rest =>
    if date? word == some [] && c.isDigit then
      (word ++ ' ' :: (c :: rest).takeWhile isWordChar, (c :: rest).dropWhile isWordChar)
    else (word, ' ' :: c :: rest)
  | rest => (word, rest)

def word? (cs : List Char) : Option Value :=
  if cs = "true".toList then some (.truth true)
  else if cs = "false".toList then some (.truth false)
  else if isMoment cs then some (.text (String.ofList cs))
  else (Value.whole <$> whole? cs) <|> (Value.fraction <$> fraction? cs)

end Toml

end DungeonScript
