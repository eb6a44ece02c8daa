import DungeonScript.Text.Ascii
import DungeonScript.Text.Decimal

/-!
Configuration values: what a settings file or a variable of the environment says. A
value is taken for what a setting needs where that is plain: a word for a number, a
number for a truth.
-/

namespace DungeonScript

namespace Config

/-! ## Entries under keys -/

def find? {α : Type} (key : String) (es : List (String × α)) : Option α :=
  (es.find? (·.1 == key)).map (·.2)

/-- The entries with one under a key, in the place of an older one. -/
def put {α : Type} (key : String) (v : α) : List (String × α) → List (String × α)
  | [] => [(key, v)]
  | e :: rest => if e.1 == key then (key, v) :: rest else e :: put key v rest

theorem find?_put_self {α : Type} (key : String) (v : α) (es : List (String × α)) :
    find? key (put key v es) = some v := by
  induction es with
  | nil => simp [put, find?]
  | cons e rest ih =>
    simp only [put]
    split
    · simp [find?]
    · rename_i h
      simpa [find?, List.find?_cons, h] using ih

theorem find?_put_of_ne {α : Type} {key other : String} (v : α) (es : List (String × α))
    (h : key ≠ other) : find? other (put key v es) = find? other es := by
  induction es with
  | nil => simp [put, find?, h]
  | cons e rest ih =>
    simp only [put]
    split
    · rename_i he
      have hk : e.1 = key := by simpa using he
      have ho : (e.1 == other) = false := by simpa [hk] using h
      simp [find?, ho, beq_eq_false_iff_ne.2 h]
    · by_cases ho : (e.1 == other) = true
      · simp [find?, ho]
      · simpa [find?, List.find?_cons, ho] using ih

/-- A value of a configuration. -/
inductive Value where
  /-- A place that was made but not filled. -/
  | void
  | whole (n : Int)
  | fraction (x : Float)
  | truth (b : Bool)
  | text (s : String)
  | list (vs : List Value)
  | table (entries : List (String × Value))
  deriving Inhabited, Repr

namespace Value

/-- The entries of a table; other values have none. -/
def entries : Value → List (String × Value)
  | .table es => es
  | _ => []

def get? (v : Value) (key : String) : Option Value := Config.find? key v.entries

def items? : Value → Option (List Value)
  | .list vs => some vs
  | _ => none

/-! ## Taking values -/

/-- The truth that a word stands for, besides the digits for it. -/
def spoken? (word : String) : Option Bool :=
  if ["TRUE", "ON", "YES"].contains (upperCase word) then some true
  else if ["FALSE", "OFF", "NO"].contains (upperCase word) then some false
  else none

def bit (b : Bool) : Nat := if b then 1 else 0

/-- The value as a counter of 64 bits. Fractions are rounded, halves away from 0. -/
def counter? : Value → Option Nat
  | .whole n => if 0 ≤ n then some n.toNat else none
  | .fraction x => some x.round.toUInt64.toNat
  | .truth b => some (bit b)
  | .text s => (spoken? s).map bit <|> Decimal.counter? s
  | _ => none

/-- The value as a counter that stays below a limit. -/
def below? (limit : Nat) (v : Value) : Option Nat := v.counter?.filter (· < limit)

def number? : Value → Option Int
  | .whole n => some n
  | .fraction x => some x.round.toInt64.toInt
  | .truth b => some (bit b)
  | .text s => ((spoken? s).map fun b => (bit b : Int)) <|> Decimal.whole? s
  | _ => none

def truth? : Value → Option Bool
  | .whole n => some (n != 0)
  | .fraction x => some (x != 0.0)
  | .truth b => some b
  | .text "1" => some true
  | .text "0" => some false
  | .text s => spoken? s
  | _ => none

def text? : Value → Option String
  | .whole n => some (toString n)
  | .truth b => some (if b then "true" else "false")
  | .text s => some s
  | _ => none

end Value

end Config

end DungeonScript
