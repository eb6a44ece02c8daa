import DungeonScript.Config.Value

/-!
Paths: the way to a value in a configuration. A path is written as a key followed by
further keys after points and by places in brackets, as in `engine.seed` or
`activations[0].turn`; places are counted from 0, or from -1 backwards. A text that is
no path is a key as a whole.

A value is put under a path whatever stands there: what is in the way and leads no
further gives way, and missing places are made. A table is put upon an older one entry
by entry.
-/

namespace DungeonScript

namespace Config

/-- A step from a value to a part of it. -/
inductive Step where
  | key (name : String)
  | place (index : Int)
  deriving Repr, DecidableEq

abbrev Path := List Step

namespace Path

/-! ## Reading paths -/

def isKeyChar (c : Char) : Bool := c.isAlphanum || c = '_' || c = '-'

def key? (cs : List Char) : Option Step :=
  if cs.isEmpty then none else some (.key (String.ofList cs))

/-- A place between brackets, perhaps with blanks around it. -/
def place? (cs : List Char) : Option Step :=
  let isBlank (c : Char) : Bool := c = ' ' || c = '\t'
  let body := ((cs.dropWhile isBlank).reverse.dropWhile isBlank).reverse
  let index := match body with
    | '-' :: digits => (Decimal.digits? digits).map fun n => -(n : Int)
    | digits => (Decimal.digits? digits).map fun n => (n : Int)
  (index.filter fun i => decide (InRange i)).map .place

theorem length_dropWhile_lt (p : Char → Bool) (c : Char) (cs : List Char) :
    (cs.dropWhile p).length < (c :: cs).length :=
  Nat.lt_succ_of_le (List.dropWhile_sublist p).length_le

/-- The steps after the first key. -/
def steps? : List Char → Option Path
  | [] => some []
  | '.' :: cs => do
    let step ← key? (cs.takeWhile isKeyChar)
    let more ← steps? (cs.dropWhile isKeyChar)
    return step :: more
  | '[' :: cs =>
    if cs.contains ']' then do
      let step ← place? (cs.takeWhile (· ≠ ']'))
      let more ← steps? ((cs.dropWhile (· ≠ ']')).drop 1)
      return step :: more
    else none
  | _ :: _ => none
termination_by cs => cs.length
decreasing_by
  · exact length_dropWhile_lt _ _ _
  · rw [List.length_drop]
    exact Nat.lt_of_le_of_lt (Nat.sub_le _ _) (length_dropWhile_lt _ _ _)

def ofText? (text : String) : Option Path := do
  let step ← key? (text.toList.takeWhile isKeyChar)
  let more ← steps? (text.toList.dropWhile isKeyChar)
  return step :: more

def ofText (text : String) : Path := (ofText? text).getD [.key text]

end Path

namespace Value

/-! ## Putting values -/

mutual

def laidOn : Value → Value → Value
  | .table es, .void => allLaidOn es (.table [])
  | .table es, old => allLaidOn es old
  | new, _ => new

def allLaidOn : List (String × Value) → Value → Value
  | [], old => old
  | (key, v) :: rest, old =>
    allLaidOn rest (.table (put key (v.laidOn ((old.get? key).getD .void)) old.entries))

end

/-- A list that has the place, and the place counted from its start. -/
def makeRoom (index : Int) (vs : List Value) : List Value × Nat :=
  if 0 ≤ index then (vs ++ List.replicate (index.toNat + 1 - vs.length) .void, index.toNat)
  else if index.natAbs ≤ vs.length then (vs, vs.length - index.natAbs)
  else (List.replicate (index.natAbs - vs.length) .void ++ vs, 0)

def setAt (new : Value) : Path → Value → Value
  | [], v => new.laidOn v
  | .key name :: path, v =>
    .table (put name (setAt new path ((v.get? name).getD .void)) v.entries)
  | .place index :: path, v =>
    let room := makeRoom index (v.items?.getD [])
    .list (room.1.set room.2 (setAt new path ((room.1[room.2]?).getD .void)))

end Value

end Config

end DungeonScript
