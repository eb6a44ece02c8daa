/-!
UTF-8, read leniently. A script file may hold octets that are no UTF-8; each longest
start of a character that does not go on as it must, and each octet that cannot start
one, is read as the replacement character.
-/

namespace DungeonScript

namespace Utf8

/-- What stands for octets that are no character. -/
def replacement : Char := '\uFFFD'

/-- A character of which some octets are still to come. -/
structure Unfinished where
  /-- How many octets are to come. -/
  missing : Nat
  /-- The least octet that may come next. -/
  least : Nat
  /-- The greatest octet that may come next. -/
  greatest : Nat
  /-- The code point as far as it is known. -/
  value : Nat
  deriving Repr, DecidableEq

/-- The longer character that an octet starts, if it starts one. The octet after it is
    bounded so that no code point has two forms and none is a surrogate or too great. -/
def started? (b : Nat) : Option Unfinished :=
  if 0xC2 ≤ b ∧ b ≤ 0xDF then some ⟨1, 0x80, 0xBF, b - 0xC0⟩
  else if b = 0xE0 then some ⟨2, 0xA0, 0xBF, 0⟩
  else if b = 0xED then some ⟨2, 0x80, 0x9F, 0xD⟩
  else if 0xE1 ≤ b ∧ b ≤ 0xEF then some ⟨2, 0x80, 0xBF, b - 0xE0⟩
  else if b = 0xF0 then some ⟨3, 0x90, 0xBF, 0⟩
  else if 0xF1 ≤ b ∧ b ≤ 0xF3 then some ⟨3, 0x80, 0xBF, b - 0xF0⟩
  else if b = 0xF4 then some ⟨3, 0x80, 0x8F, 4⟩
  else none

/-- Characters read so far, the last one first, and the one that is unfinished. -/
structure Decoded where
  chars : List Char
  unfinished : Option Unfinished
  deriving Repr, DecidableEq

namespace Decoded

def start : Decoded := ⟨[], none⟩

def push (c : Char) (d : Decoded) : Decoded := ⟨c :: d.chars, none⟩

/-- After an octet that stands where a character starts. -/
def opened (d : Decoded) (b : Nat) : Decoded :=
  if b < 0x80 then d.push (.ofNat b)
  else
    match started? b with
    | some u => { d with unfinished := some u }
    | none => d.push replacement

/-- After an octet that carries an unfinished character on. -/
def carryOn (d : Decoded) (u : Unfinished) (b : Nat) : Decoded :=
  let value := u.value * 64 + (b - 0x80)
  if u.missing = 1 then d.push (.ofNat value)
  else { d with unfinished := some ⟨u.missing - 1, 0x80, 0xBF, value⟩ }

def step (d : Decoded) (b : Nat) : Decoded :=
  match d.unfinished with
  | none => d.opened b
  | some u => if u.least ≤ b ∧ b ≤ u.greatest then d.carryOn u b else (d.push replacement).opened b

/-- All characters, an unfinished one replaced. -/
def finish (d : Decoded) : List Char :=
  match d.unfinished with
  | none => d.chars.reverse
  | some _ => (replacement :: d.chars).reverse

end Decoded

def decode (octets : List UInt8) : String :=
  String.ofList (octets.foldl (fun d b => d.step b.toNat) Decoded.start).finish

end Utf8

end DungeonScript
