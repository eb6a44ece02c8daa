import DungeonScript.Invocation

/-!
What the program takes from libraries: reading arguments, reading settings files and
variables of the environment, putting layers of settings on each other, and taking a
value for what a setting needs. How these are put to use does not depend on what they
do, so they are given as a `Library`. The program itself uses `Library.standard`.

Values of a configuration are known from outside only: what they are is told by `view`.
-/

namespace DungeonScript

/-- What the program finds around it. -/
structure Surroundings where
  /-- The contents of a file, if there is one. -/
  file? : String → Option ByteArray
  /-- Names and values of the variables of the environment. -/
  environment : List (String × String)

/-- A value of a configuration, seen from outside. -/
inductive View (V : Type) where
  /-- A place that was made but not filled. -/
  | void
  /-- A number, a truth or a text. -/
  | single
  | list (items : List V)
  | table (entry : String → Option V)

/-- What the program takes from libraries. -/
structure Library where
  /-- What the arguments of the program ask for. -/
  parse : List String → Except CommandLine.Stop CommandLine.Invocation
  /-- Values of a configuration. -/
  Value : Type
  view : Value → View Value
  /-- A number with a sign, of 64 bits. -/
  whole : Int → Value
  truth : Bool → Value
  /-- A text taken for a truth or a number, if it reads as one. -/
  parsed : String → Value
  /-- The value as a number without a sign that stays below a limit. -/
  below? : Nat → Value → Option Nat
  /-- The value as a number with a sign, of 64 bits. -/
  number? : Value → Option Int
  truth? : Value → Option Bool
  text? : Value → Option String
  /-- Where settings come from. -/
  Source : Type
  /-- A settings file, looked for under a path. -/
  file : (String → Option ByteArray) → String → Source
  /-- The variables whose names start with `KEEPER_`, with two underscores between the
      keys behind it and their texts `parsed`. -/
  environment : List (String × String) → Source
  /-- The configuration that sources make, and values put under keys upon them, if all
      the sources can be read. -/
  build? : List Source → List (List String × Value) → Option Value

namespace Library

variable (lib : Library)

/-- What stands under a key of a table; other values have nothing there. -/
def get? (v : lib.Value) (key : String) : Option lib.Value :=
  match lib.view v with
  | .table entry => entry key
  | _ => none

/-- What stands under keys, one after the other. -/
def at? : List String → lib.Value → Option lib.Value
  | [], v => some v
  | key :: keys, v => (lib.get? v key).bind (at? keys)

def items? (v : lib.Value) : Option (List lib.Value) :=
  match lib.view v with
  | .list vs => some vs
  | _ => none

/-- Where a field stands: under a key of a table, or in a place of a list. -/
structure Field where
  key : String
  place : Nat
  deriving Repr, DecidableEq

/-- What a field says, read by `read`; `other` where it is missing. A field that cannot
    be read is refused, and so are all fields of a value that is neither a table nor a
    list. -/
def field {α : Type} (v : lib.Value) (f : Field) (read : lib.Value → Option α)
    (other : Option α) : Option α :=
  match lib.view v with
  | .table entry => ((entry f.key).map read).getD other
  | .list vs => (vs[f.place]?.map read).getD other
  | _ => none

variable {lib}

theorem at?_single (key : String) (v : lib.Value) : lib.at? [key] v = lib.get? v key := by
  show (lib.get? v key).bind some = _
  cases lib.get? v key <;> rfl

theorem get?_of_table {v : lib.Value} {entry : String → Option lib.Value}
    (table : lib.view v = .table entry) (key : String) : lib.get? v key = entry key := by
  rw [get?, table]

/-- A field of a table is what stands under its key. -/
theorem field_of_table {α : Type} {v : lib.Value} {entry : String → Option lib.Value}
    (table : lib.view v = .table entry) (f : Field) (read : lib.Value → Option α)
    (other : Option α) : lib.field v f read other = ((lib.get? v f.key).map read).getD other := by
  rw [field, get?_of_table table, table]

end Library

end DungeonScript
